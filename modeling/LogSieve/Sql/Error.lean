import LogSieve.Text.Quoted

/-! Why a statement is not compiled or not let through. The last two causes lie in the program that
asks: a profile with a column nobody knows, and a page too far out to be counted. -/

namespace LogSieve.Sql

inductive Error where
  | badPage (page : UInt32)
  | badPageSize (size max : UInt32)
  | notSelect
  | withoutSelect
  | forbiddenKeyword (keyword : String)
  | multipleStatements
  | badTableName (name : String)
  | unknownSortColumn (name : String)
  | offsetOverflow
  deriving DecidableEq

def Error.message : Error → String
  | badPage page => "page numbers start at 1, got " ++ toString page.toNat
  | badPageSize size max =>
    "page size must be between 1 and " ++ toString max.toNat ++ ", got " ++ toString size.toNat
  | notSelect => "only SELECT or WITH queries are allowed"
  | withoutSelect => "WITH statements must include a SELECT query"
  | forbiddenKeyword keyword => "query contains forbidden keyword: " ++ keyword
  | multipleStatements => "query contains more than one statement"
  | badTableName name => "invalid table name: " ++ Text.quoted name
  | unknownSortColumn name =>
    "unregistered identifier reached the compiler: " ++ Text.quoted name
  | offsetOverflow => "the offset of the page does not fit in 64 bits"

/-- Whether the cause lies in the program that asks. -/
def Error.isDefect : Error → Bool
  | unknownSortColumn _ => true
  | offsetOverflow => true
  | _ => false

end LogSieve.Sql
