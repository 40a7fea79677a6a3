import LogSieve.Proofs.StatementShape

/-! The four statements of a request in full. Each is a head, one condition text and one list of bound
values that all four have in common, and a tail of its own: what is counted and what is charted is what
is listed. -/

namespace LogSieve.Sql

namespace Condition

def values (escape : Bool) : Condition → List Value
  | .inScope scope => [.text scope]
  | .among _ values => values
  | .holds _ predicate =>
    predicate.values.map fun literal => .text (containsPattern escape literal)
  | .atLeast _ bound => [.text bound]
  | .atMost _ bound => [.text bound]

end Condition

theorem fill_question {text : List Char} {values : List Value}
    (count : text.count '?' = values.length) : fill (fun _ => "?") text values = text := by
  induction text generalizing values with
  | nil => rfl
  | cons c rest ih =>
    by_cases question : c = '?'
    · subst question
      rw [List.count_cons_self] at count
      obtain ⟨value, values, rfl⟩ := List.exists_cons_of_length_eq_add_one count.symm
      have later : fill (fun _ => "?") rest values = rest := ih (Nat.succ.inj count)
      rw [fill, later]
      rfl
    · rw [List.count_cons_of_ne question] at count
      rw [fill_cons question, ih count]

/-- A statement is its own inlined text with placeholders for values. -/
theorem Statement.ReadsAs.text_eq {statement : Statement} {inlined : (Value → String) → String}
    (reads : statement.ReadsAs inlined) : statement.text = inlined fun _ => "?" := by
  have filled := reads.filled fun _ => "?"
  rw [fill_question reads.count, String.ofList_toList] at filled
  exact filled

namespace Draft
variable (draft : Draft) (escape : Bool) (column : Column)

theorem params_bindItems (values : List Value) :
    (draft.bindItems values).params = draft.params ++ values := by
  fun_induction bindItems draft values with
  | case1 draft => exact (List.append_nil _).symm
  | case2 draft value => rfl
  | case3 draft value values _ ih =>
    rw [ih]
    exact List.append_assoc draft.params [value] values

theorem params_like (literal : String) : (draft.like escape column literal).params =
    draft.params ++ [.text (containsPattern escape literal)] := by
  cases escape <;> rfl

theorem params_likeAny (literals : List String) :
    (draft.likeAny escape column literals).params =
      draft.params ++ literals.map fun literal => .text (containsPattern escape literal) := by
  fun_induction likeAny draft escape column literals with
  | case1 draft => exact (List.append_nil _).symm
  | case2 draft literal => exact params_like draft escape column literal
  | case3 draft literal literals _ ih =>
    have first : ((draft.like escape column literal).sql " OR ").params =
        draft.params ++ [.text (containsPattern escape literal)] :=
      params_like draft escape column literal
    rw [ih, first, List.append_assoc]
    rfl

theorem params_condition (condition : Condition) :
    (draft.condition escape condition).params = draft.params ++ condition.values escape := by
  cases condition with
  | inScope scope => rfl
  | among column values => exact params_bindItems ((draft.sql column.name).sql " IN " |>.sql "(") values
  | holds column predicate =>
    cases predicate with
    | single literal => exact params_like draft escape column literal
    | anyOf literals => exact params_likeAny (draft.sql "(") escape column literals
  | atLeast column bound => rfl
  | atMost column bound => rfl

theorem params_openCondition : draft.openCondition.params = draft.params := by
  unfold openCondition
  split <;> rfl

theorem params_conditions (conditions : List Condition) :
    (draft.conditions escape conditions).params =
      draft.params ++ conditions.flatMap (Condition.values escape) := by
  induction conditions generalizing draft with
  | nil => exact (List.append_nil _).symm
  | cons first conditions ih =>
    have next := ih (draft.openCondition.condition escape first)
    rw [params_condition, params_openCondition, List.append_assoc] at next
    exact next

end Draft

namespace Compiler
variable (compiler : Compiler) (filter : Filter) (scope : Option String)

/-- The conditions of a request as every statement of it writes them: nothing, or all of them. -/
def clause : String :=
  Inlined.whereClause (Inlined.conditions (fun _ => "?") compiler.escapeWildcards filter scope)

def bound : List Value :=
  (Sql.conditions filter scope).flatMap (Condition.values compiler.escapeWildcards)

theorem params_select (selection : String) :
    (compiler.select selection filter scope).params = compiler.bound filter scope :=
  Draft.params_conditions _ compiler.escapeWildcards (Sql.conditions filter scope)

/-- What the filter and the scope add to a statement stands between its head and its tail. -/
theorem text_select (selection : String)
    (fixed : '?' ∉ ("SELECT " ++ selection ++ " FROM ").toList) :
    (compiler.select selection filter scope).text =
      "SELECT " ++ selection ++ " FROM " ++ compiler.table.name ++ compiler.clause filter scope :=
  (Draft.ReadsAs.select compiler filter scope fixed).text_eq

theorem rows_eq (request : SortRequest) : compiler.rows filter request scope =
    { text := "SELECT * FROM " ++ compiler.table.name ++ compiler.clause filter scope ++
        (" ORDER BY " ++ (request.resolveWith compiler.defaultSort).column.name ++ " " ++
          (request.resolveWith compiler.defaultSort).direction.keyword)
      params := compiler.bound filter scope } := by
  have text := (Draft.ReadsAs.sortedRows compiler filter request scope).text_eq
  exact congrArg₂ Statement.mk text (compiler.params_select filter scope "*")

theorem count_eq : compiler.count filter scope =
    { text := "SELECT COUNT(*) AS total FROM " ++ compiler.table.name ++ compiler.clause filter scope
      params := compiler.bound filter scope } := by
  have text := compiler.text_select filter scope "COUNT(*) AS total" (by decide)
  exact congrArg₂ Statement.mk text (compiler.params_select filter scope _)

theorem histogram_eq (bucket : Bucket) : compiler.histogram filter scope bucket =
    { text := "SELECT " ++ bucket.expression ++ " AS bucket, COUNT(*) AS hits FROM " ++
        compiler.table.name ++ compiler.clause filter scope ++ " GROUP BY bucket ORDER BY bucket ASC"
      params := compiler.bound filter scope } := by
  have fixed : '?' ∉ ("SELECT " ++ (bucket.expression ++ " AS bucket, COUNT(*) AS hits") ++
      " FROM ").toList := by cases bucket <;> decide
  have head : "SELECT " ++ (bucket.expression ++ " AS bucket, COUNT(*) AS hits") ++ " FROM " =
      "SELECT " ++ bucket.expression ++ " AS bucket, COUNT(*) AS hits FROM " := by
    cases bucket <;> decide
  have text := compiler.text_select filter scope (bucket.expression ++ " AS bucket, COUNT(*) AS hits") fixed
  rw [head] at text
  exact congrArg₂ Statement.mk (congrArg (· ++ " GROUP BY bucket ORDER BY bucket ASC") text)
    (compiler.params_select filter scope _)

theorem page_eq_rows {page : Page} {window : Window} (request : SortRequest)
    (shown : page.window compiler.maxPageSize = .ok window) :
    compiler.page filter request scope page = .ok
      { text := (compiler.rows filter request scope).text ++ " LIMIT ? OFFSET ?"
        params := compiler.bound filter scope ++
          [.integer (Int64.ofNat window.limit.toNat), .integer window.offset] } := by
  have spelled (text : String) :
      text ++ " LIMIT " ++ "?" ++ " OFFSET " ++ "?" = text ++ " LIMIT ? OFFSET ?" := by
    simp only [String.append_assoc]
    rfl
  have text : (compiler.windowed filter request scope window).text =
      (compiler.rows filter request scope).text ++ " LIMIT ? OFFSET ?" := spelled _
  have params : (compiler.windowed filter request scope window).params =
      compiler.bound filter scope ++
        [.integer (Int64.ofNat window.limit.toNat), .integer window.offset] := by
    have listed := compiler.params_select filter scope "*"
    rw [← listed]
    exact List.append_assoc _ _ _
  rw [page_eq, shown]
  exact congrArg Except.ok (congrArg₂ Statement.mk text params)

theorem exists_window_of_page_eq_ok {page : Page} {request : SortRequest} {statement : Statement}
    (compiled : compiler.page filter request scope page = .ok statement) :
    ∃ window, page.window compiler.maxPageSize = .ok window ∧ statement =
      { text := (compiler.rows filter request scope).text ++ " LIMIT ? OFFSET ?"
        params := compiler.bound filter scope ++
          [.integer (Int64.ofNat window.limit.toNat), .integer window.offset] } := by
  cases shown : page.window compiler.maxPageSize with
  | error error =>
    rw [page_eq, shown] at compiled
    cases compiled
  | ok window =>
    rw [compiler.page_eq_rows filter scope request shown] at compiled
    exact ⟨window, rfl, (Except.ok.inj compiled).symm⟩

theorem clause_eq : compiler.clause filter scope = "" ∨
    ∃ conditions, compiler.clause filter scope = " WHERE " ++ conditions := by
  unfold clause Inlined.whereClause
  split
  · exact .inl rfl
  · exact .inr ⟨_, rfl⟩

/-- What is counted, charted and shown by pages is what is listed: the four statements of a request have
one condition text and one list of bound values in common, which depend on the filter and the scope
only. -/
theorem statements_eq :
    (compiler.clause filter scope = "" ∨
      ∃ conditions, compiler.clause filter scope = " WHERE " ++ conditions) ∧
    compiler.count filter scope =
      { text := "SELECT COUNT(*) AS total FROM " ++ compiler.table.name ++
          compiler.clause filter scope
        params := compiler.bound filter scope } ∧
    (∀ bucket : Bucket, compiler.histogram filter scope bucket =
      { text := "SELECT " ++ bucket.expression ++ " AS bucket, COUNT(*) AS hits FROM " ++
          compiler.table.name ++ compiler.clause filter scope ++
          " GROUP BY bucket ORDER BY bucket ASC"
        params := compiler.bound filter scope }) ∧
    ∀ request : SortRequest,
      compiler.rows filter request scope =
        { text := "SELECT * FROM " ++ compiler.table.name ++ compiler.clause filter scope ++
            (" ORDER BY " ++ (request.resolveWith compiler.defaultSort).column.name ++ " " ++
              (request.resolveWith compiler.defaultSort).direction.keyword)
          params := compiler.bound filter scope } ∧
      ∀ page : Page, compiler.Accepts page → ∃ limit offset : Int64,
        limit.toInt = page.size.toNat ∧
        offset.toInt = (page.number.toNat - 1) * page.size.toNat ∧
        compiler.page filter request scope page = .ok
          { text := (compiler.rows filter request scope).text ++ " LIMIT ? OFFSET ?"
            params := compiler.bound filter scope ++ [.integer limit, .integer offset] } := by
  refine ⟨compiler.clause_eq filter scope, compiler.count_eq filter scope,
    compiler.histogram_eq filter scope, fun request => ⟨compiler.rows_eq filter scope request, ?_⟩⟩
  intro page accepts
  have sized : page.size.toNat < 0x8000000000000000 := Nat.lt_trans page.size.toNat_lt (by decide)
  have placed : page.rowsBefore < 0x8000000000000000 := Nat.lt_succ_of_le accepts.fits
  have counted : 1 ≤ page.number.toNat :=
    Nat.one_le_iff_ne_zero.mpr fun zero => accepts.counted (UInt32.toNat_inj.mp zero)
  refine ⟨Int64.ofNat page.size.toNat, Int64.ofNat page.rowsBefore,
    Int64.toInt_ofNat_of_lt sized, ?_, compiler.page_eq_rows filter scope request accepts.window⟩
  rw [Int64.toInt_ofNat_of_lt placed, Page.rowsBefore]
  push_cast [counted]
  rfl

/-- The third page of twenty rows shows those behind the first forty. -/
theorem statements_eq_third_page : Accepts ⟨default, true, 500, .latestFirst⟩ ⟨3, 20⟩ ∧
    ∃ limit offset : Int64, limit.toInt = 20 ∧ offset.toInt = 40 ∧
      page ⟨default, true, 500, .latestFirst⟩ { path := some (.single "/a"), status := .ofList [404] } {}
        (some "7") ⟨3, 20⟩ = .ok
        { text := (rows ⟨default, true, 500, .latestFirst⟩
            { path := some (.single "/a"), status := .ofList [404] } {} (some "7")).text ++
            " LIMIT ? OFFSET ?"
          params := bound ⟨default, true, 500, .latestFirst⟩
            { path := some (.single "/a"), status := .ofList [404] } (some "7") ++
            [.integer limit, .integer offset] } := by
  have accepts : Accepts ⟨default, true, 500, .latestFirst⟩ ⟨3, 20⟩ :=
    ⟨by decide, by decide, by decide, by decide⟩
  exact ⟨accepts, ((statements_eq _ _ _).2.2.2 _).2 _ accepts⟩

end Compiler

end LogSieve.Sql
