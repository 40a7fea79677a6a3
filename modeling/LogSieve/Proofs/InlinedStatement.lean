import Mathlib.Data.List.ReduceOption
import LogSieve.Proofs.PageWindows
import LogSieve.Proofs.Placeholders
import LogSieve.Sql.Compiler

/-! Compiled statements against statements with the values written straight into them. The latter are
told from the filter alone: its conditions in a fixed order, with no text that grows and no list of
values beside it. -/

namespace LogSieve.Sql

namespace Inlined

def like (write : Value → String) (escape : Bool) (column literal : String) : String :=
  column ++ " LIKE " ++ write (.text (containsPattern escape literal)) ++
    if escape then " ESCAPE '\\'" else ""

/-- The literals of a predicate; alternatives stand in parentheses even if there are none. -/
def holds (write : Value → String) (escape : Bool) (column : String) : Filter.Predicate → String
  | .single literal => like write escape column literal
  | .anyOf literals => "(" ++ " OR ".intercalate (literals.map (like write escape column)) ++ ")"

def among (write : Value → String) (column : String) : List Value → Option String
  | [] => none
  | values => some (column ++ " IN " ++ ("(" ++ ", ".intercalate (values.map write) ++ ")"))

def status (code : UInt16) : Value := .integer (Int64.ofNat code.toNat)

def conditions (write : Value → String) (escape : Bool) (filter : Filter) (scope : Option String) :
    List String :=
  [ scope.map fun scope => "log_file_id = " ++ write (.text scope),
    among write "method" (filter.method.toList.map .text),
    among write "status" (filter.status.toList.map status),
    filter.crawler.map (holds write escape "crawler_name"),
    filter.path.map (holds write escape "path"),
    filter.time.start.map fun start => "time >= " ++ write (.text start),
    filter.time.stop.map fun stop => "time <= " ++ write (.text stop) ].filterMap id

def condition (write : Value → String) (escape : Bool) : Condition → String
  | .inScope scope => "log_file_id = " ++ write (.text scope)
  | .among column values =>
    column.name ++ " IN " ++ ("(" ++ ", ".intercalate (values.map write) ++ ")")
  | .holds column predicate => holds write escape column.name predicate
  | .atLeast column bound => column.name ++ " >= " ++ write (.text bound)
  | .atMost column bound => column.name ++ " <= " ++ write (.text bound)

def whereClause : List String → String
  | [] => ""
  | conditions => " WHERE " ++ " AND ".intercalate conditions

section
variable (write : Value → String) (compiler : Compiler) (filter : Filter) (scope : Option String)

def select (selection : String) : String :=
  "SELECT " ++ selection ++ " FROM " ++ compiler.table.name ++
    whereClause (conditions write compiler.escapeWildcards filter scope)

def rows (request : SortRequest) : String :=
  let order := request.resolveWith compiler.defaultSort
  select write compiler filter scope "*" ++
    (" ORDER BY " ++ order.column.name ++ " " ++ order.direction.keyword)

def page (request : SortRequest) (page : Page) : String :=
  rows write compiler filter scope request ++
    (" LIMIT " ++ write (.integer (Int64.ofNat page.size.toNat)) ++
      " OFFSET " ++ write (.integer (Int64.ofNat ((page.number.toNat - 1) * page.size.toNat))))

def count : String := select write compiler filter scope "COUNT(*) AS total"

def histogram (bucket : Bucket) : String :=
  select write compiler filter scope (bucket.expression ++ " AS bucket, COUNT(*) AS hits") ++
    " GROUP BY bucket ORDER BY bucket ASC"

end

end Inlined

theorem map_condition_amongAny (write : Value → String) (escape : Bool) (column : Column)
    (values : List Value) : (amongAny column values).map (Inlined.condition write escape) =
      Inlined.among write column.name values := by
  cases values <;> rfl

theorem map_condition_conditions (write : Value → String) (escape : Bool) (filter : Filter)
    (scope : Option String) : (Sql.conditions filter scope).map (Inlined.condition write escape) =
      Inlined.conditions write escape filter scope := by
  refine List.reduceOption_map.symm.trans (congrArg List.reduceOption ?_)
  simp only [List.map_cons, List.map_nil, Option.map_map, map_condition_amongAny]
  rfl

namespace Draft
variable (draft : Draft) (escape : Bool) (column : Column)

@[simp] theorem filtered_sql (fragment : String) : (draft.sql fragment).filtered = draft.filtered :=
  rfl

@[simp] theorem filtered_bind (value : Value) : (draft.bind value).filtered = draft.filtered := rfl

@[simp] theorem filtered_column : (draft.column column).filtered = draft.filtered := rfl

@[simp] theorem filtered_openCondition : draft.openCondition.filtered = true := by
  unfold openCondition
  split <;> simp_all

@[simp] theorem filtered_bindItems (values : List Value) :
    (draft.bindItems values).filtered = draft.filtered := by
  fun_induction bindItems draft values <;> simp_all

@[simp] theorem filtered_like (literal : String) :
    (draft.like escape column literal).filtered = draft.filtered := by
  cases escape <;> rfl

@[simp] theorem filtered_likeAny (literals : List String) :
    (draft.likeAny escape column literals).filtered = draft.filtered := by
  fun_induction likeAny draft escape column literals <;> simp_all

@[simp] theorem filtered_condition (condition : Condition) :
    (draft.condition escape condition).filtered = draft.filtered := by
  cases condition with
  | holds column predicate => cases predicate <;> simp [Draft.condition]
  | _ => simp [Draft.condition, bindList, compare]

end Draft

namespace Draft.ReadsAs
variable {draft : Draft} {inlined : (Value → String) → String}

theorem like (reads : draft.ReadsAs inlined) (escape : Bool) (column : Column) (literal : String) :
    (draft.like escape column literal).ReadsAs fun write =>
      inlined write ++ Inlined.like write escape column.name literal := by
  have pattern := ((reads.column column).sql (by decide : '?' ∉ " LIKE ".toList)).bind
    (.text (containsPattern escape literal))
  cases escape with
  | true =>
    refine (pattern.sql (by decide)).congr fun write => ?_
    simp [Inlined.like, String.append_assoc]
  | false =>
    refine pattern.congr fun write => ?_
    simp [Inlined.like, String.append_assoc]

theorem likeAny (reads : draft.ReadsAs inlined) (escape : Bool) (column : Column)
    (literals : List String) : (draft.likeAny escape column literals).ReadsAs fun write =>
      inlined write ++ " OR ".intercalate (literals.map (Inlined.like write escape column.name)) := by
  fun_induction Draft.likeAny draft escape column literals generalizing inlined with
  | case1 draft => simpa using reads
  | case2 draft literal => simpa using reads.like escape column literal
  | case3 draft literal literals more ih =>
    refine (ih ((reads.like escape column literal).sql (by decide))).congr fun write => ?_
    rw [List.map_cons, String.intercalate_cons_of_ne_nil (by simpa using more)]
    simp only [String.append_assoc]

theorem compare (reads : draft.ReadsAs inlined) {column operator : String}
    (fixed : '?' ∉ (column ++ operator).toList) (value : Value) :
    (draft.compare column operator value).ReadsAs fun write =>
      inlined write ++ (column ++ operator ++ write value) := by
  refine ((reads.sql fixed).bind value).congr fun write => ?_
  simp only [String.append_assoc]

theorem condition (reads : draft.ReadsAs inlined) (escape : Bool) (condition : Condition) :
    (draft.condition escape condition).ReadsAs fun write =>
      inlined write ++ Inlined.condition write escape condition := by
  cases condition with
  | inScope scope => exact reads.compare (by decide) (.text scope)
  | among column values =>
    refine (((reads.column column).sql (by decide)).bindList values).congr fun write => ?_
    simp only [Inlined.condition, String.append_assoc]
  | holds column predicate =>
    cases predicate with
    | single literal => exact reads.like escape column literal
    | anyOf literals =>
      refine (((reads.sql (by decide)).likeAny escape column literals).sql (by decide)).congr
        fun write => ?_
      simp only [Inlined.condition, Inlined.holds, String.append_assoc]
  | atLeast column bound => exact reads.compare (by cases column <;> decide) (.text bound)
  | atMost column bound => exact reads.compare (by cases column <;> decide) (.text bound)

theorem more (reads : draft.ReadsAs inlined) (opened : draft.filtered = true) (escape : Bool)
    (conditions : List Condition) : (draft.conditions escape conditions).ReadsAs fun write =>
      " AND ".intercalate (inlined write :: conditions.map (Inlined.condition write escape)) := by
  induction conditions generalizing draft inlined with
  | nil => exact reads.congr fun write => by simp
  | cons first conditions ih =>
    have next := reads.openCondition.condition escape first
    refine (ih next (by simp)).congr fun write => ?_
    simp [opened, String.intercalate_cons_append]

theorem conditions (reads : draft.ReadsAs inlined) (unopened : draft.filtered = false)
    (escape : Bool) (conditions : List Condition) :
    (draft.conditions escape conditions).ReadsAs fun write => inlined write ++
      Inlined.whereClause (conditions.map (Inlined.condition write escape)) := by
  cases conditions with
  | nil => exact reads.congr fun write => by simp [Inlined.whereClause]
  | cons first conditions =>
    have next := reads.openCondition.condition escape first
    refine (next.more (by simp) escape conditions).congr fun write => ?_
    simp [Inlined.whereClause, unopened, String.intercalate_cons_append, String.append_assoc]

theorem select (compiler : Compiler) (filter : Filter) (scope : Option String) {selection : String}
    (fixed : '?' ∉ ("SELECT " ++ selection ++ " FROM ").toList) :
    (compiler.select selection filter scope).ReadsAs fun write =>
      Inlined.select write compiler filter scope selection := by
  refine (((ReadsAs.empty.sql fixed).table compiler.table).conditions rfl compiler.escapeWildcards
    (Sql.conditions filter scope)).congr fun write => ?_
  rw [map_condition_conditions]
  simp only [Inlined.select, String.empty_append, String.append_assoc]

theorem sortedRows (compiler : Compiler) (filter : Filter) (request : SortRequest)
    (scope : Option String) : (compiler.sortedRows filter request scope).ReadsAs fun write =>
      Inlined.rows write compiler filter scope request := by
  have start := ReadsAs.select compiler filter scope (by decide : '?' ∉ ("SELECT " ++ "*" ++ " FROM ").toList)
  have keyword (direction : Direction) : '?' ∉ direction.keyword.toList := by
    cases direction <;> decide
  refine ((((start.sql (by decide)).column _).sql (by decide)).sql (keyword _)).congr fun write => ?_
  simp only [Inlined.rows, String.append_assoc]

end Draft.ReadsAs

namespace Compiler

/-- Pages within the limits of a compiler, with an offset that fits into 64 bits. -/
structure Accepts (compiler : Compiler) (page : Page) : Prop where
  counted : page.number ≠ 0
  nonempty : page.size ≠ 0
  limited : page.size ≤ compiler.maxPageSize
  fits : (page.number.toNat - 1) * page.size.toNat ≤ 0x7fffffffffffffff

theorem Accepts.window {compiler : Compiler} {page : Page} (accepts : compiler.Accepts page) :
    page.window compiler.maxPageSize =
      .ok { limit := page.size, offset := Int64.ofNat page.rowsBefore } := by
  have allowed : page.Allowed compiler.maxPageSize :=
    ⟨accepts.counted, accepts.nonempty, accepts.limited⟩
  have near : ¬ page.OutOfReach := Nat.not_le.mpr (Nat.lt_succ_of_le accepts.fits)
  rw [allowed.window_eq, if_neg near]

/-- Every statement has a value for each placeholder, and filling them in from left to right, by any
way to write a value, gives the statement with its values written inline. -/
theorem readsAs_inlined (compiler : Compiler) (filter : Filter) (request : SortRequest)
    (scope : Option String) :
    ((compiler.rows filter request scope).ReadsAs fun write =>
      Inlined.rows write compiler filter scope request) ∧
    ((compiler.count filter scope).ReadsAs fun write => Inlined.count write compiler filter scope) ∧
    (∀ bucket, (compiler.histogram filter scope bucket).ReadsAs fun write =>
      Inlined.histogram write compiler filter scope bucket) ∧
    ∀ page, compiler.Accepts page → ∃ statement,
      compiler.page filter request scope page = .ok statement ∧
        statement.ReadsAs fun write => Inlined.page write compiler filter scope request page := by
  have sorted := Draft.ReadsAs.sortedRows compiler filter request scope
  have plain (bucket : Bucket) :
      '?' ∉ ("SELECT " ++ (bucket.expression ++ " AS bucket, COUNT(*) AS hits") ++ " FROM ").toList := by
    cases bucket <;> decide
  refine ⟨sorted, Draft.ReadsAs.select compiler filter scope (by decide), fun bucket => ?_,
    fun page accepts => ?_⟩
  · exact (Draft.ReadsAs.select compiler filter scope (plain bucket)).sql (by decide)
  · have limited := (sorted.sql (by decide : '?' ∉ " LIMIT ".toList)).bind
      (.integer (Int64.ofNat page.size.toNat))
    have placed := (limited.sql (by decide : '?' ∉ " OFFSET ".toList)).bind
      (.integer (Int64.ofNat page.rowsBefore))
    refine ⟨_, by rw [Compiler.page, accepts.window]; rfl, placed.congr fun write => ?_⟩
    simp only [Inlined.page, Page.rowsBefore, String.append_assoc]

/-- A question mark in a value is no placeholder. -/
theorem readsAs_inlined_question : Accepts ⟨default, true, 500, .latestFirst⟩ ⟨3, 20⟩ ∧ ∃ statement,
    page ⟨default, true, 500, .latestFirst⟩ { path := some (.anyOf ["?", "50%"]), status := .ofList [404] }
      {} (some "?") ⟨3, 20⟩ = .ok statement ∧
    statement.ReadsAs fun write => Inlined.page write ⟨default, true, 500, .latestFirst⟩
      { path := some (.anyOf ["?", "50%"]), status := .ofList [404] } (some "?") {} ⟨3, 20⟩ := by
  have accepts : Accepts ⟨default, true, 500, .latestFirst⟩ ⟨3, 20⟩ :=
    ⟨by decide, by decide, by decide, by decide⟩
  exact ⟨accepts, (readsAs_inlined _ _ _ _).2.2.2 _ accepts⟩

end Compiler

end LogSieve.Sql
