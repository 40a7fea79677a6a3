import LogSieve.Json.Basic
import LogSieve.Text.Quoted

/-! Values that a statement binds to its placeholders. -/

namespace LogSieve.Sql

inductive Value where
  | integer (value : Int64)
  | text (value : String)
  deriving DecidableEq

namespace Value

/-- Integers in digits, texts in quotes, so that the two are told apart. -/
def shown : Value → String
  | integer value => toString value.toInt
  | text value => Text.quoted value

def toJson : Value → Json
  | integer value => .integer value.toInt
  | text value => .string value

def ofJson? : Json → Option Value
  | .string value => some (text value)
  | json => json.int64?.map integer

end Value

end LogSieve.Sql
