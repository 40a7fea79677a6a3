import LogSieve.Text.Word
import LogSieve.Sql.Error

/-! Table names. Only a plain identifier may be written into a statement: ASCII letters, digits and
underscores, and no digit at the start. -/

namespace LogSieve.Sql

def isIdentifier : List Char → Bool
  | [] => false
  | c :: rest => (Text.isAsciiLetter c || c == '_') && rest.all Text.isAsciiWord

structure TableName where
  name : String
  isIdentifier : isIdentifier name.toList
  deriving DecidableEq

namespace TableName

instance : Inhabited TableName := ⟨"access_logs", by decide⟩

def ofString (name : String) : Except Error TableName :=
  if plain : Sql.isIdentifier name.toList then pure ⟨name, plain⟩ else throw (.badTableName name)

end TableName

end LogSieve.Sql
