import LogSieve.Sql.Compiler
import LogSieve.Sql.Request

/-! Profiles: the settings of one log store. A profile that has been checked names a column to sort by
and page sizes that can be used as they stand. -/

namespace LogSieve

/-- The sort order where a request names no column or no direction. -/
structure SortRules where
  column : String := "time"
  direction : Sql.Direction := .descending

structure PageRules where
  defaultSize : UInt32 := 50
  maxSize : UInt32 := 1000

structure Profile where
  name : String := "base"
  table : Sql.TableName := default
  /-- Take `%` and `_` in literals for themselves. -/
  escapeWildcards : Bool := false
  sort : SortRules := {}
  pages : PageRules := {}
  rowLimit : UInt32 := Sql.Request.usualLimit
  bucket : Sql.Bucket := .hour

namespace Profile

inductive Flaw where
  | unsortable (column : String)
  | noPageSize
  | badDefaultSize (max : UInt32)
  | noRows
  deriving DecidableEq

def Flaw.message : Flaw → String
  | unsortable column => "sort.column '" ++ column ++ "' is not a sortable column"
  | noPageSize => "pagination.max_page_size must be at least 1"
  | badDefaultSize max =>
    "pagination.default_page_size must be between 1 and " ++ toString max.toNat
  | noRows => "request.row_limit must be at least 1"

def flaw? (profile : Profile) : Option Flaw :=
  if (Column.ofName? profile.sort.column).isNone then some (.unsortable profile.sort.column)
  else if profile.pages.maxSize = 0 then some .noPageSize
  else if profile.pages.defaultSize = 0 ∨ profile.pages.maxSize < profile.pages.defaultSize then
    some (.badDefaultSize profile.pages.maxSize)
  else if profile.rowLimit = 0 then some .noRows
  else none

/-- The compiler of a profile. An unchecked profile may name a column that nobody knows. -/
def compiler (profile : Profile) : Except Sql.Error Sql.Compiler :=
  match Column.ofName? profile.sort.column with
  | none => throw (.unknownSortColumn profile.sort.column)
  | some column =>
    pure
      { table := profile.table
        escapeWildcards := profile.escapeWildcards
        maxPageSize := profile.pages.maxSize
        defaultSort := { column, direction := profile.sort.direction } }

end Profile

end LogSieve
