import LogSieve.Catalog
import LogSieve.Sql.Value
import LogSieve.Sql.TableName

/-! Statements and how they grow. A draft takes fixed fragments, columns and table names into its
text; a value leaves a placeholder there and goes to the end of the parameters in the same
step, so the two never get out of order. -/

namespace LogSieve.Sql

/-- A statement: its text and the values of its placeholders, from left to right. -/
structure Statement where
  text : String
  params : List Value
  deriving DecidableEq

def Statement.placeholders (statement : Statement) : Nat := statement.text.toList.count '?'

structure Draft where
  text : String := ""
  params : List Value := []
  /-- Whether a condition has been opened. -/
  filtered : Bool := false

namespace Draft

def sql (draft : Draft) (fragment : String) : Draft := { draft with text := draft.text ++ fragment }

def column (draft : Draft) (column : Column) : Draft := draft.sql column.name

def table (draft : Draft) (table : TableName) : Draft := draft.sql table.name

def bind (draft : Draft) (value : Value) : Draft :=
  { draft with text := draft.text ++ "?", params := draft.params ++ [value] }

def bindItems (draft : Draft) : List Value → Draft
  | [] => draft
  | [value] => draft.bind value
  | value :: values => bindItems ((draft.bind value).sql ", ") values

/-- Placeholders in parentheses, one for each value. -/
def bindList (draft : Draft) (values : List Value) : Draft :=
  ((draft.sql "(").bindItems values).sql ")"

/-- Open a condition: the first one of a draft with `WHERE`, the later ones with `AND`. -/
def openCondition (draft : Draft) : Draft :=
  if draft.filtered then draft.sql " AND " else { draft.sql " WHERE " with filtered := true }

def finish (draft : Draft) : Statement := { text := draft.text, params := draft.params }

inductive Step where
  | sql (fragment : String)
  | column (column : Column)
  | table (table : TableName)
  | value (value : Value)
  | values (values : List Value)
  | openCondition

def step (draft : Draft) : Step → Draft
  | .sql fragment => draft.sql fragment
  | .column column => draft.column column
  | .table table => draft.table table
  | .value value => draft.bind value
  | .values values => draft.bindList values
  | .openCondition => draft.openCondition

end Draft

end LogSieve.Sql
