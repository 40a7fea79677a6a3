import LogSieve.Text.Word
import LogSieve.Text.Capital
import LogSieve.Sql.Error

/-! The check that a text is one statement that only reads. It looks at the text without comments, first
those that run to the end of their line, then those between `/*` and `*/`; one that is never closed stays.
Quoted literals are taken for code: a keyword in a literal is refused as well. -/

namespace LogSieve.Sql

/-- The text without line comments; `inside` says that one is open. Line breaks stay. -/
def dropLineComments (inside : Bool) : List Char → List Char
  | [] => []
  | '\n' :: rest => '\n' :: dropLineComments false rest
  | '-' :: '-' :: rest =>
    if inside then dropLineComments true ('-' :: rest) else dropLineComments true rest
  | c :: rest => if inside then dropLineComments true rest else c :: dropLineComments false rest

def closes : List Char → Bool
  | [] => false
  | '*' :: '/' :: _ => true
  | _ :: rest => closes rest

/-- The text without block comments; `inside` says that one is open, which is so only if it is
closed further on. -/
def dropBlockComments (inside : Bool) : List Char → List Char
  | [] => []
  | '*' :: '/' :: rest =>
    if inside then dropBlockComments false rest else '*' :: dropBlockComments false ('/' :: rest)
  | '/' :: '*' :: rest =>
    if inside then dropBlockComments true ('*' :: rest)
    else if closes rest then dropBlockComments true rest
    else '/' :: '*' :: rest
  | c :: rest => if inside then dropBlockComments true rest else c :: dropBlockComments false rest

def dropComments (text : List Char) : List Char :=
  dropBlockComments false (dropLineComments false text)

def forbiddenKeywords : List String :=
  ["INSERT", "UPDATE", "DELETE", "DROP", "ALTER", "CREATE", "TRUNCATE"]

def isWord (keyword : String) (word : List Char) : Bool :=
  Text.isKeyword (Text.lowerAscii keyword.toList) word

def hasWord (keyword : String) (text : List Char) : Bool := (Text.names text).any (isWord keyword)

def forbidden? (text : List Char) : Option String :=
  (Text.names text).findSome? fun word => forbiddenKeywords.find? (isWord · word)

def beginsWith (keyword : String) (text : List Char) : Bool :=
  keyword.toList.isPrefixOf (Text.upperChars text)

/-- What follows the first semicolon. -/
def afterSemicolon (text : List Char) : List Char := (text.dropWhile (· != ';')).drop 1

def checkStatement (statement : List Char) : Except Error Unit := do
  if beginsWith "WITH" statement then
    unless hasWord "SELECT" statement do throw .withoutSelect
  else
    unless beginsWith "SELECT" statement do throw .notSelect
  match forbidden? statement with
  | some keyword => throw (.forbiddenKeyword keyword)
  | none => unless Text.allBlank (afterSemicolon statement) do throw .multipleStatements

def checkReadOnly (text : String) : Except Error Unit :=
  checkStatement (Text.trim (dropComments text.toList))

end LogSieve.Sql
