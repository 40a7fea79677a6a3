import LogSieve.Sql.Bucket
import LogSieve.Sql.Condition
import LogSieve.Sql.Page
import LogSieve.Sql.SortOrder

/-! Compiling a filter to a statement. Rows, page, count and histogram share their conditions. -/

namespace LogSieve.Sql

structure Compiler where
  table : TableName
  escapeWildcards : Bool
  maxPageSize : UInt32
  defaultSort : SortOrder

namespace Compiler

def select (compiler : Compiler) (selection : String) (filter : Filter) (scope : Option String) :
    Draft :=
  (((({} : Draft).sql ("SELECT " ++ selection ++ " FROM ")).table compiler.table).conditions
    compiler.escapeWildcards (Sql.conditions filter scope))

def sortedRows (compiler : Compiler) (filter : Filter) (request : SortRequest)
    (scope : Option String) : Draft :=
  let order := request.resolveWith compiler.defaultSort
  ((((compiler.select "*" filter scope).sql " ORDER BY ").column order.column).sql " ").sql
    order.direction.keyword

def rows (compiler : Compiler) (filter : Filter) (request : SortRequest) (scope : Option String) :
    Statement :=
  (compiler.sortedRows filter request scope).finish

def page (compiler : Compiler) (filter : Filter) (request : SortRequest) (scope : Option String)
    (page : Page) : Except Error Statement := do
  let window ← page.window compiler.maxPageSize
  let draft := (compiler.sortedRows filter request scope).sql " LIMIT "
  let draft := (draft.bind (.integer (Int64.ofNat window.limit.toNat))).sql " OFFSET "
  return (draft.bind (.integer window.offset)).finish

def count (compiler : Compiler) (filter : Filter) (scope : Option String) : Statement :=
  (compiler.select "COUNT(*) AS total" filter scope).finish

/-- How many rows there are in each stretch of time. -/
def histogram (compiler : Compiler) (filter : Filter) (scope : Option String) (bucket : Bucket) :
    Statement :=
  let draft := compiler.select (bucket.expression ++ " AS bucket, COUNT(*) AS hits") filter scope
  (draft.sql " GROUP BY bucket ORDER BY bucket ASC").finish

end Compiler

end LogSieve.Sql
