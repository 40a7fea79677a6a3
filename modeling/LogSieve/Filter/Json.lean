import LogSieve.Json.Record
import LogSieve.Filter.Basic

/-! Filters as JSON. Writing leaves out what does not constrain; reading brings predicates into their
regular form. -/

namespace LogSieve.Filter

inductive DecodeError where
  | emptyPredicate
  | malformed
  deriving DecidableEq

/-- The wording of a failure that has one of its own. -/
def DecodeError.message? : DecodeError → Option String
  | emptyPredicate => some "text predicate needs at least one value"
  | malformed => none

namespace Predicate

def toJson : Predicate → Json
  | single value => .string value
  | anyOf values => .array (values.map .string)

def ofJson (json : Json) : Except DecodeError Predicate :=
  match json with
  | .string value => pure (single value)
  | _ =>
    match json.strings? with
    | none => throw .malformed
    | some values =>
      match ofValues? values with
      | none => throw .emptyPredicate
      | some predicate => pure predicate

end Predicate

namespace TimeRange

def toJson (range : TimeRange) : Json :=
  .object <| (range.start.map fun start => ("start", Json.string start)).toList ++
    (range.stop.map fun stop => ("end", Json.string stop)).toList

def setField (range : TimeRange) (key : String) (value : Json) : Except DecodeError TimeRange :=
  match key with
  | "start" => do return { range with start := ← Json.optional (Json.expect .malformed Json.string?) value }
  | "end" => do return { range with stop := ← Json.optional (Json.expect .malformed Json.string?) value }
  | _ => pure range

def ofJson (json : Json) : Except DecodeError TimeRange :=
  Json.record ["start", "end"] false .malformed setField {} json

end TimeRange

def toJson (filter : Filter) : Json :=
  .object <| (filter.crawler.map fun predicate => ("crawler", predicate.toJson)).toList ++
    (filter.path.map fun predicate => ("path", predicate.toJson)).toList ++
    (if filter.method.isEmpty then []
      else [("method", .array (filter.method.toList.map .string))]) ++
    (if filter.status.isEmpty then []
      else [("status", .array (filter.status.toList.map fun status => .integer status.toNat))]) ++
    (if filter.time.isEmpty then [] else [("dateRange", filter.time.toJson)])

def setField (filter : Filter) (key : String) (value : Json) : Except DecodeError Filter :=
  match key with
  | "crawler" => do return { filter with crawler := ← Json.optional Predicate.ofJson value }
  | "path" => do return { filter with path := ← Json.optional Predicate.ofJson value }
  | "method" => do
    let methods ← Json.expect .malformed Json.strings? value
    return { filter with method := .ofList methods }
  | "status" => do
    let statuses ← Json.expect .malformed (fun v => v.array?.bind (·.mapM Json.uint16?)) value
    return { filter with status := .ofList statuses }
  | "dateRange" => do return { filter with time := ← TimeRange.ofJson value }
  | _ => pure filter

def ofJson (json : Json) : Except DecodeError Filter :=
  Json.record ["crawler", "path", "method", "status", "dateRange"] false .malformed setField {} json

end LogSieve.Filter
