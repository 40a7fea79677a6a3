import LogSieve.Filter.Basic
import LogSieve.Sql.Statement

/-! Conditions on a record. A filter asks for all conditions of a list, in a fixed order; how each is
written is told here once for all statements. A literal becomes a pattern of the `LIKE` operator, in which
`%` stands for any text and `_` for any character. -/

namespace LogSieve.Sql

/-- The column with the log file that a record comes from. It is never chosen by name. -/
def scopeColumn : String := "log_file_id"

inductive Condition where
  | inScope (scope : String)
  | among (column : Column) (values : List Value)
  | holds (column : Column) (predicate : Filter.Predicate)
  | atLeast (column : Column) (bound : String)
  | atMost (column : Column) (bound : String)

/-- `IN` with the members of a set; an empty set asks for nothing. -/
def amongAny (column : Column) (values : List Value) : Option Condition :=
  if values.isEmpty then none else some (.among column values)

/-- The conditions of a filter: scope, method, status, crawler, path, start, stop. -/
def conditions (filter : Filter) (scope : Option String) : List Condition :=
  [ scope.map .inScope,
    amongAny .method (filter.method.toList.map .text),
    amongAny .status (filter.status.toList.map fun status => .integer (Int64.ofNat status.toNat)),
    filter.crawler.map (.holds .crawlerName),
    filter.path.map (.holds .path),
    filter.time.start.map (.atLeast .time),
    filter.time.stop.map (.atMost .time) ].filterMap id

def backslashed (special : Char) (text : List Char) : List Char :=
  text.flatMap fun c => if c == special then ['\\', c] else [c]

/-- The literal with a backslash before each character that a pattern would not take literally. Backslashes
come first: the later passes add some that have to stay as they are. -/
def escapeLike (literal : String) : String :=
  String.ofList (backslashed '_' (backslashed '%' (backslashed '\\' literal.toList)))

/-- The pattern of all texts that hold `literal`. -/
def containsPattern (escape : Bool) (literal : String) : String :=
  "%" ++ (if escape then escapeLike literal else literal) ++ "%"

namespace Draft

def like (draft : Draft) (escape : Bool) (column : Column) (literal : String) : Draft :=
  let draft := ((draft.column column).sql " LIKE ").bind (.text (containsPattern escape literal))
  if escape then draft.sql " ESCAPE '\\'" else draft

def likeAny (draft : Draft) (escape : Bool) (column : Column) : List String → Draft
  | [] => draft
  | [literal] => draft.like escape column literal
  | literal :: literals =>
    likeAny ((draft.like escape column literal).sql " OR ") escape column literals

def compare (draft : Draft) (column operator : String) (value : Value) : Draft :=
  (draft.sql (column ++ operator)).bind value

def condition (draft : Draft) (escape : Bool) : Condition → Draft
  | .inScope scope => draft.compare scopeColumn " = " (.text scope)
  | .among column values => ((draft.column column).sql " IN ").bindList values
  | .holds column (.single literal) => draft.like escape column literal
  | .holds column (.anyOf literals) => ((draft.sql "(").likeAny escape column literals).sql ")"
  | .atLeast column bound => draft.compare column.name " >= " (.text bound)
  | .atMost column bound => draft.compare column.name " <= " (.text bound)

def conditions (draft : Draft) (escape : Bool) (conditions : List Condition) : Draft :=
  conditions.foldl (fun draft condition => draft.openCondition.condition escape condition) draft

end Draft

end LogSieve.Sql
