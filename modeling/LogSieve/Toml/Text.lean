import LogSieve.Json.Reader

/-! The smallest parts of TOML: blanks, line ends, comments, keys and strings. Each reader takes its
part off the front of the text and returns what is left. -/

namespace LogSieve.Toml

def isBlank (c : Char) : Bool := c == ' ' || c == '\t'

def skipBlanks (text : List Char) : List Char := text.dropWhile isBlank

def isPlain (c : Char) : Bool := c == '\t' || (0x20 ≤ c.toNat && c.toNat != 0x7f)

def lineEnd? : List Char → Option (List Char)
  | '\n' :: rest => some rest
  | '\r' :: '\n' :: rest => some rest
  | _ => none

def skipComment (text : List Char) : List Char :=
  match skipBlanks text with
  | '#' :: rest => rest.dropWhile isPlain
  | rest => rest

/-- What is left of a line that holds nothing more: the next lines, or the end of the text. -/
def lineRest? (text : List Char) : Option (List Char) :=
  match skipComment text with
  | [] => some []
  | rest => lineEnd? rest

def skipLines : Nat → List Char → List Char
  | 0, text => text
  | fuel + 1, text =>
    match skipComment text with
    | [] => []
    | rest =>
      match lineEnd? rest with
      | some rest => skipLines fuel rest
      | none => rest

def isBareKeyChar (c : Char) : Bool :=
  Text.isAsciiDigit c || ('A' ≤ c && c ≤ 'Z') || ('a' ≤ c && c ≤ 'z') || c == '_' || c == '-'

/-- The character of a code point written with `count` hexadecimal digits. -/
def codePoint? (count : Nat) (text : List Char) : Option (Char × List Char) := do
  let digits ← (text.take count).mapM Json.hexDigit?
  let code := digits.foldl (fun code digit => code * 16 + digit) 0
  if digits.length == count && (code < 0xd800 || (0xdfff < code && code < 0x110000)) then
    return (Char.ofNat code, text.drop count)
  else none

/-- The character that an escape stands for; the backslash has been read. -/
def escape? : List Char → Option (Char × List Char)
  | 'b' :: rest => some ('\x08', rest)
  | 't' :: rest => some ('\t', rest)
  | 'n' :: rest => some ('\n', rest)
  | 'f' :: rest => some ('\x0c', rest)
  | 'r' :: rest => some ('\r', rest)
  | '"' :: rest => some ('"', rest)
  | '\\' :: rest => some ('\\', rest)
  | 'u' :: rest => codePoint? 4 rest
  | 'U' :: rest => codePoint? 8 rest
  | _ => none

/-- The rest of a string on one line; `escapes` says whether a backslash is special. -/
def lineString? (quote : Char) (escapes : Bool) : Nat → List Char → Option (List Char × List Char)
  | 0, _ | _, [] => none
  | fuel + 1, c :: rest =>
    if c == quote then some ([], rest)
    else if escapes && c == '\\' then do
      let (c, rest) ← escape? rest
      let (tail, rest) ← lineString? quote escapes fuel rest
      return (c :: tail, rest)
    else if isPlain c then do
      let (tail, rest) ← lineString? quote escapes fuel rest
      return (c :: tail, rest)
    else none

/-- Blanks and line ends after a backslash at the end of a line. -/
def skipFold : Nat → List Char → List Char
  | 0, text => text
  | fuel + 1, text =>
    match lineEnd? (skipBlanks text) with
    | some rest => skipFold fuel rest
    | none => skipBlanks text

/-- The rest of a string over several lines. Three quotes close it; one or two before them, or
elsewhere, belong to it. -/
def blockString? (quote : Char) (escapes : Bool) : Nat → List Char → Option (List Char × List Char)
  | 0, _ | _, [] => none
  | fuel + 1, c :: rest =>
    if [quote, quote, quote].isPrefixOf (c :: rest) then
      let extra := min 2 ((rest.drop 2).takeWhile (· == quote)).length
      some (List.replicate extra quote, rest.drop (2 + extra))
    else if escapes && c == '\\' then
      match lineEnd? (skipBlanks rest) with
      | some rest => blockString? quote escapes fuel (skipFold fuel rest)
      | none => do
        let (c, rest) ← escape? rest
        let (tail, rest) ← blockString? quote escapes fuel rest
        return (c :: tail, rest)
    else
      match lineEnd? (c :: rest) with
      | some rest => do
        let (tail, rest) ← blockString? quote escapes fuel rest
        return ('\n' :: tail, rest)
      | none =>
        if isPlain c then do
          let (tail, rest) ← blockString? quote escapes fuel rest
          return (c :: tail, rest)
        else none

def shortString? : List Char → Option (List Char × List Char)
  | '"' :: rest => lineString? '"' true (rest.length + 1) rest
  | '\'' :: rest => lineString? '\'' false (rest.length + 1) rest
  | _ => none

/-- A string of any kind. A line end right after three opening quotes does not belong to it. -/
def string? (text : List Char) : Option (List Char × List Char) :=
  let block (quote : Char) (escapes : Bool) (rest : List Char) :=
    blockString? quote escapes (rest.length + 1) ((lineEnd? rest).getD rest)
  match text with
  | '"' :: '"' :: '"' :: rest => block '"' true rest
  | '\'' :: '\'' :: '\'' :: rest => block '\'' false rest
  | _ => shortString? text

def keyPart? (text : List Char) : Option (String × List Char) :=
  match shortString? text with
  | some (part, rest) => some (String.ofList part, rest)
  | none =>
    let part := text.takeWhile isBareKeyChar
    if part.isEmpty then none else some (String.ofList part, text.dropWhile isBareKeyChar)

/-- How many parts a key may have, and how deep values may nest. -/
def maxDepth : Nat := 79

/-- A key: parts with points between them and blanks around the points. -/
def keyParts? : Nat → List Char → Option (List String × List Char)
  | 0, _ => none
  | fuel + 1, text => do
    let (part, rest) ← keyPart? (skipBlanks text)
    match skipBlanks rest with
    | '.' :: rest =>
      let (parts, rest) ← keyParts? fuel rest
      return (part :: parts, rest)
    | rest => return ([part], rest)

def key? (text : List Char) : Option (List String × List Char) := keyParts? maxDepth text

end LogSieve.Toml
