import LogSieve.Filter.Chip
import LogSieve.Filter.Warning
import LogSieve.Report.Style
import LogSieve.Report.Table
import LogSieve.Sql.Request

/-! Reports for a reader: chips, requests, columns and warnings. -/

namespace LogSieve.Report

def chipsText (colour : Bool) (chips : List Filter.Chip) : String :=
  if chips.isEmpty then paint colour .faint "No active filters" ++ "\n"
  else table ["Filter", "Key"] (chips.map fun chip => [chip.label, chip.key]) ++ "\n"

def ordinal (n : Nat) : String :=
  let digits := toString n
  if n < 10 then " " ++ digits else digits

/-- One line for each value, counted from `first`. -/
def paramLines (colour : Bool) (first : Nat) : List Sql.Value → List String
  | [] => []
  | value :: values =>
    ("  " ++ ordinal first ++ ". " ++ paint colour .value value.shown ++ "\n") ::
      paramLines colour (first + 1) values

def requestText (colour : Bool) (request : Sql.Request) : String :=
  paint colour .heading "Query" ++ "\n  " ++ paint colour .query request.cappedQuery ++ "\n" ++
    paint colour .heading "Params" ++
    (if request.params.isEmpty then " " ++ paint colour .faint "none" ++ "\n"
      else "\n" ++ String.join (paramLines colour 1 request.params))

def columnsText (colour : Bool) : String :=
  table ["Column", "Filterable", "Sortable"]
      (Column.all.map fun column => [column.name, "yes", "yes"]) ++ "\n" ++
    paint colour .label "Methods:" ++ " " ++ ", ".intercalate knownMethods ++ "\n" ++
    paint colour .label "Status presets:" ++ " " ++
    ", ".intercalate (statusPresets.map fun status => toString status.toNat) ++ "\n"

def columnsJson : Json :=
  .object
    [("columns", .array (Column.all.map fun column => .string column.name)),
      ("methods", .array (knownMethods.map .string)),
      ("statusPresets", .array (statusPresets.map fun status => .integer status.toNat))]

def warningsText (colour : Bool) (filter : Filter) : String :=
  String.join (filter.warnings.map fun warning =>
    paint colour .warning "Warning:" ++ " " ++ warning.message ++ "\n")

end LogSieve.Report
