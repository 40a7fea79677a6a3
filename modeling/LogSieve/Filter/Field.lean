import LogSieve.Text.Character

/-! The five fields that a filter can constrain. Each has a keyword in the text language and a key
on its chip; the two differ for the time range only. -/

namespace LogSieve.Filter

inductive Field where
  | crawler
  | path
  | method
  | status
  | date
  deriving DecidableEq

namespace Field

def all : List Field := [crawler, path, method, status, date]

def keyword : Field → String
  | crawler => "crawler"
  | path => "path"
  | method => "method"
  | status => "status"
  | date => "date"

def key : Field → String
  | date => "dateRange"
  | field => field.keyword

/-- The field of a keyword, in any case of ASCII letters. -/
def ofKeyword? (word : List Char) : Option Field :=
  all.find? fun field => Text.sameAscii field.keyword.toList word

/-- The field of a chip's key, letter for letter. -/
def ofKey? (key : String) : Option Field := all.find? (·.key == key)

@[simp] theorem ofKey?_key (field : Field) : ofKey? field.key = some field := by
  cases field <;> decide

@[simp] theorem ofKeyword?_keyword (field : Field) :
    ofKeyword? field.keyword.toList = some field := by
  cases field <;> decide

end Field

end LogSieve.Filter
