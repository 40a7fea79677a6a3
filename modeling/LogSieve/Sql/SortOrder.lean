import LogSieve.Catalog
import LogSieve.Json.Record

/-! Sort orders. A request for one holds texts from outside; it is resolved to a column and a direction
before anything is written into a statement. -/

namespace LogSieve.Sql

inductive Direction where
  | ascending
  | descending
  deriving DecidableEq, Inhabited

namespace Direction

def keyword : Direction → String
  | ascending => "ASC"
  | descending => "DESC"

def name : Direction → String
  | ascending => "asc"
  | descending => "desc"

def ofName? (name : String) : Option Direction :=
  [ascending, descending].find? (·.name == name)

/-- `asc` or `desc` in any case of ASCII letters. -/
def ofToken? (token : String) : Option Direction :=
  [ascending, descending].find? fun direction =>
    Text.sameAscii direction.name.toList token.toList

end Direction

/-- A column and a direction that may be written into a statement. -/
structure SortOrder where
  column : Column
  direction : Direction
  deriving DecidableEq

def SortOrder.latestFirst : SortOrder := { column := .time, direction := .descending }

structure SortRequest where
  column : Option String := none
  direction : Option String := none
  deriving DecidableEq

namespace SortRequest

def ofOrder (order : SortOrder) : SortRequest :=
  { column := some order.column.name, direction := some order.direction.keyword }

/-- The direction asked for; a word that is no direction means descending. -/
def resolveDirection (request : SortRequest) (default : Direction) : Direction :=
  request.direction.elim default fun token => (Direction.ofToken? token).getD .descending

/-- What is not asked for is taken from `default`. A column that nobody knows discards the request
as a whole, the default with it. -/
def resolveWith (request : SortRequest) (default : SortOrder) : SortOrder :=
  match request.column with
  | none => { column := default.column, direction := request.resolveDirection default.direction }
  | some name =>
    match Column.ofName? name with
    | some column => { column, direction := request.resolveDirection default.direction }
    | none => .latestFirst

def resolve (request : SortRequest) : SortOrder := request.resolveWith .latestFirst

def setField (request : SortRequest) (key : String) (value : Json) : Except Unit SortRequest :=
  match key with
  | "column" => do return { request with column := ← Json.optional (Json.expect () Json.string?) value }
  | "direction" => do return { request with direction := ← Json.optional (Json.expect () Json.string?) value }
  | _ => pure request

def ofJson? (json : Json) : Option SortRequest :=
  (Json.record ["column", "direction"] false () setField {} json).toOption

end SortRequest

end LogSieve.Sql
