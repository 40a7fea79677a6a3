import LogSieve.Text.Character

/-! What the log store knows: its columns, the request methods and the status codes that the
controls offer. A column reaches a statement only as a member of `Column`, never as text. -/

namespace LogSieve

/-- Columns that may be filtered on and sorted by. -/
inductive Column where
  | time
  | ipAddress
  | method
  | path
  | status
  | crawlerName
  deriving DecidableEq

namespace Column

def all : List Column := [time, ipAddress, method, path, status, crawlerName]

def name : Column → String
  | time => "time"
  | ipAddress => "ip_address"
  | method => "method"
  | path => "path"
  | status => "status"
  | crawlerName => "crawler_name"

/-- The column of a name. Names are compared as they are, capitals included. -/
def ofName? (name : String) : Option Column := all.find? (·.name == name)

@[simp] theorem ofName?_name (column : Column) : ofName? column.name = some column := by
  cases column <;> decide

end Column

def knownMethods : List String := ["GET", "POST", "PUT", "DELETE", "HEAD"]

/-- The known method that a word names, in any case of ASCII letters. -/
def knownMethod? (word : List Char) : Option String :=
  knownMethods.find? fun method => Text.sameAscii method.toList word

def statusPresets : List UInt16 := [200, 301, 302, 304, 400, 403, 404, 500]

end LogSieve
