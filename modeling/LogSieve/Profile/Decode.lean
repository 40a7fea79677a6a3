import LogSieve.Json.Record
import LogSieve.Profile.Basic

/-! Profiles as trees of settings. What a setting is called and which values it takes is the same in
every notation; notations differ in two small ways, which `Dialect` records. -/

namespace LogSieve.Profile

/-- What a notation for profiles allows. -/
structure Dialect where
  /-- Whether a record written as an array may have more items than fields. -/
  surplus : Bool
  /-- What may be attached to the name of a choice that is written as a table with one entry. -/
  attachment : Json → Bool

def Dialect.json : Dialect where
  surplus := false
  attachment
    | .null => true
    | _ => false

def Dialect.toml : Dialect where
  surplus := true
  attachment
    | .array items => items.isEmpty
    | .object entries => entries.isEmpty
    | _ => false

inductive DecodeError where
  | badTableName (cause : Sql.Error)
  | malformed
  deriving DecidableEq

/-- The wording of a failure that has one of its own. -/
def DecodeError.message? : DecodeError → Option String
  | badTableName cause => some cause.message
  | malformed => none

def choice {α : Type} (dialect : Dialect) (ofName? : String → Option α) : Json → Except DecodeError α
  | .string name => Json.expect .malformed (fun _ => ofName? name) .null
  | .object [(name, value)] =>
    if dialect.attachment value then Json.expect .malformed (fun _ => ofName? name) .null
    else throw .malformed
  | _ => throw .malformed

def text : Json → Except DecodeError String := Json.expect .malformed Json.string?
def number : Json → Except DecodeError UInt32 := Json.expect .malformed Json.uint32?

def tableName (value : Json) : Except DecodeError Sql.TableName := do
  match Sql.TableName.ofString (← text value) with
  | .ok table => return table
  | .error cause => throw (.badTableName cause)

def setSortField (dialect : Dialect) (rules : SortRules) (key : String) (value : Json) :
    Except DecodeError SortRules :=
  match key with
  | "column" => do return { rules with column := ← text value }
  | "direction" => do return { rules with direction := ← choice dialect Sql.Direction.ofName? value }
  | _ => pure rules

def setPageField (rules : PageRules) (key : String) (value : Json) : Except DecodeError PageRules :=
  match key with
  | "default_page_size" => do return { rules with defaultSize := ← number value }
  | "max_page_size" => do return { rules with maxSize := ← number value }
  | _ => pure rules

def setRowLimit (limit : UInt32) (key : String) (value : Json) : Except DecodeError UInt32 :=
  match key with
  | "row_limit" => number value
  | _ => pure limit

def setBucket (dialect : Dialect) (bucket : Sql.Bucket) (key : String) (value : Json) :
    Except DecodeError Sql.Bucket :=
  match key with
  | "default_bucket" => choice dialect Sql.Bucket.ofName? value
  | _ => pure bucket

def setField (dialect : Dialect) (profile : Profile) (key : String) (value : Json) :
    Except DecodeError Profile :=
  let record {α : Type} (names : List String) (set : α → String → Json → Except DecodeError α) (start : α) :=
    Json.record names dialect.surplus DecodeError.malformed set start value
  match key with
  | "profile_name" => do return { profile with name := ← text value }
  | "table" => do return { profile with table := ← tableName value }
  | "escape_like_wildcards" => do
    return { profile with escapeWildcards := ← Json.expect .malformed Json.bool? value }
  | "sort" => do
    return { profile with sort := ← record ["column", "direction"] (setSortField dialect) {} }
  | "pagination" => do
    return { profile with pages := ← record ["default_page_size", "max_page_size"] setPageField {} }
  | "request" => do
    return { profile with rowLimit := ← record ["row_limit"] setRowLimit Sql.Request.usualLimit }
  | "histogram" => do
    return { profile with bucket := ← record ["default_bucket"] (setBucket dialect) .hour }
  | _ => pure profile

def ofJson (dialect : Dialect) (json : Json) : Except DecodeError Profile :=
  Json.record
    ["profile_name", "table", "escape_like_wildcards", "sort", "pagination", "request", "histogram"]
    dialect.surplus .malformed (setField dialect) {} json

def toJson (profile : Profile) : Json :=
  .object
    [("profile_name", .string profile.name), ("table", .string profile.table.name),
      ("escape_like_wildcards", .bool profile.escapeWildcards),
      ("sort", .object [("column", .string profile.sort.column),
        ("direction", .string profile.sort.direction.name)]),
      ("pagination", .object [("default_page_size", .integer profile.pages.defaultSize.toNat),
        ("max_page_size", .integer profile.pages.maxSize.toNat)]),
      ("request", .object [("row_limit", .integer profile.rowLimit.toNat)]),
      ("histogram", .object [("default_bucket", .string profile.bucket.name)])]

end LogSieve.Profile
