import LogSieve.Sql.ReadOnly
import LogSieve.Sql.Statement

/-! Requests to the store: a statement that only reads, and how many rows it may return. -/

namespace LogSieve.Sql

structure Request where
  query : String
  params : List Value
  limit : UInt32
  deriving DecidableEq

namespace Request

def usualLimit : UInt32 := 1000

def ofStatement (statement : Statement) (limit : UInt32) : Except Error Request := do
  checkReadOnly statement.text
  return { query := statement.text, params := statement.params, limit }

/-- The query with the row cap behind it, unless it has the word `LIMIT` somewhere already. -/
def cappedQuery (request : Request) : String :=
  if hasWord "LIMIT" request.query.toList then request.query
  else request.query ++ " LIMIT " ++ toString request.limit.toNat

def toJson (request : Request) : Json :=
  .object [("query", .string request.query), ("params", .array (request.params.map Value.toJson)),
    ("limit", .integer request.limit.toNat)]

end Request

end LogSieve.Sql
