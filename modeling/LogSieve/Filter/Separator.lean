import LogSieve.Text.Word

/-! The separators `and` and `or`. A text is cut at every word that is a separator, except that the
first and the last word separate nothing, nor does the word right after a separator. -/

namespace LogSieve.Filter

abbrev Word := List Char

def isAnd (word : Word) : Bool := Text.isKeyword ['a', 'n', 'd'] word
def isOr (word : Word) : Bool := Text.isKeyword ['o', 'r'] word

def attach (word : Word) : List (List Word) → List (List Word)
  | [] => [[word]]
  | part :: parts => (word :: part) :: parts

def splitAt (separates : Word → Bool) : List Word → List (List Word)
  | [] => [[]]
  | [word] => [[word]]
  | word :: next :: rest =>
    if separates next && !rest.isEmpty then [word] :: splitAt separates rest
    else attach word (splitAt separates (next :: rest))

def clauses (text : List Char) : List (List Word) := splitAt isAnd (Text.words text)

def alternatives (clause : List Word) : List (List Word) := splitAt isOr clause

end LogSieve.Filter
