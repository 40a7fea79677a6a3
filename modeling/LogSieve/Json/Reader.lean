import LogSieve.Json.Basic
import LogSieve.Text.Character

/-! Reading JSON text. A reader takes a value off the front of the text and returns what is left;
the fuel is more than the number of characters, so it never runs out. Values nest to a fixed
depth. -/

namespace LogSieve.Json

def isSpace (c : Char) : Bool := c == ' ' || c == '\n' || c == '\t' || c == '\r'

def skipSpace (text : List Char) : List Char := text.dropWhile isSpace

def hexDigit? (c : Char) : Option Nat :=
  if '0' ≤ c && c ≤ '9' then some (c.toNat - '0'.toNat)
  else if 'a' ≤ c && c ≤ 'f' then some (c.toNat - 'a'.toNat + 10)
  else if 'A' ≤ c && c ≤ 'F' then some (c.toNat - 'A'.toNat + 10)
  else none

def codeUnit? : List Char → Option (Nat × List Char)
  | a :: b :: c :: d :: rest => do
    let a ← hexDigit? a
    let b ← hexDigit? b
    let c ← hexDigit? c
    let d ← hexDigit? d
    return (((a * 16 + b) * 16 + c) * 16 + d, rest)
  | _ => none

/-- The character after `\u`: one code unit, or two that form a surrogate pair. Half a pair is
no character. -/
def escapedChar? (text : List Char) : Option (Char × List Char) := do
  let (unit, rest) ← codeUnit? text
  if 0xd800 ≤ unit && unit ≤ 0xdbff then
    match rest with
    | '\\' :: 'u' :: rest =>
      let (low, rest) ← codeUnit? rest
      if 0xdc00 ≤ low && low ≤ 0xdfff then
        return (Char.ofNat (0x10000 + (unit - 0xd800) * 0x400 + (low - 0xdc00)), rest)
      else none
    | _ => none
  else if 0xdc00 ≤ unit && unit ≤ 0xdfff then none
  else return (Char.ofNat unit, rest)

def shortEscape? : Char → Option Char
  | '"' => some '"'
  | '\\' => some '\\'
  | '/' => some '/'
  | 'b' => some '\x08'
  | 'f' => some '\x0c'
  | 'n' => some '\n'
  | 'r' => some '\r'
  | 't' => some '\t'
  | _ => none

/-- The rest of a string, up to and without the closing quote. -/
def stringTail? (fuel : Nat) (text : List Char) : Option (List Char × List Char) :=
  match fuel, text with
  | 0, _ | _, [] => none
  | _ + 1, '"' :: rest => some ([], rest)
  | fuel + 1, '\\' :: 'u' :: rest => do
    let (c, rest) ← escapedChar? rest
    let (tail, rest) ← stringTail? fuel rest
    return (c :: tail, rest)
  | fuel + 1, '\\' :: e :: rest => do
    let c ← shortEscape? e
    let (tail, rest) ← stringTail? fuel rest
    return (c :: tail, rest)
  | fuel + 1, c :: rest =>
    if c.toNat < 0x20 || c == '\\' then none
    else do
      let (tail, rest) ← stringTail? fuel rest
      return (c :: tail, rest)

def digits (text : List Char) : List Char × List Char :=
  (text.takeWhile Text.isAsciiDigit, text.dropWhile Text.isAsciiDigit)

def fraction? : List Char → Option (List Char × List Char)
  | '.' :: rest =>
    let (places, rest) := digits rest
    if places.isEmpty then none else some ('.' :: places, rest)
  | text => some ([], text)

/-- An exponent, if one is written: the letter, a sign or none, and at least one digit. -/
def exponent? : List Char → Option (List Char × List Char)
  | e :: rest =>
    if e == 'e' || e == 'E' then
      let (sign, rest) := match rest with
        | '+' :: rest => (['+'], rest)
        | '-' :: rest => (['-'], rest)
        | _ => ([], rest)
      let (power, rest) := digits rest
      if power.isEmpty then none else some (e :: sign ++ power, rest)
    else some ([], e :: rest)
  | [] => some ([], [])

/-- A number. No zero stands before another digit, and minus zero is not an integer. -/
def number? (text : List Char) : Option (Json × List Char) := do
  let (sign, text) := match text with
    | '-' :: rest => (['-'], rest)
    | _ => ([], text)
  let (whole, text) := digits text
  if whole.isEmpty || (whole.length > 1 && whole.head? == some '0') then none
  let (places, text) ← fraction? text
  let (power, text) ← exponent? text
  if places.isEmpty && power.isEmpty && !(sign == ['-'] && whole == ['0']) then
    let size := (Nat.ofDigitChars 10 whole 0 : Int)
    return (.integer (if sign.isEmpty then size else -size), text)
  else return (.decimal (String.ofList (sign ++ whole ++ places ++ power)), text)

def literal? (word : String) (value : Json) (text : List Char) : Option (Json × List Char) :=
  if word.toList.isPrefixOf text then some (value, text.drop word.length) else none

/-- How many arrays and objects may be open at once. -/
def maxDepth : Nat := 127

mutual

def value? (fuel depth : Nat) (text : List Char) : Option (Json × List Char) :=
  match fuel with
  | 0 => none
  | fuel + 1 =>
    match skipSpace text with
    | '"' :: rest => do
      let (tail, rest) ← stringTail? rest.length.succ rest
      return (.string (String.ofList tail), rest)
    | '[' :: rest =>
      if depth ≥ maxDepth then none
      else match skipSpace rest with
        | ']' :: rest => some (.array [], rest)
        | rest => do
          let (items, rest) ← items? fuel (depth + 1) rest
          return (.array items, rest)
    | '\x7b' :: rest =>
      if depth ≥ maxDepth then none
      else match skipSpace rest with
        | '\x7d' :: rest => some (.object [], rest)
        | rest => do
          let (entries, rest) ← entries? fuel (depth + 1) rest
          return (.object entries, rest)
    | 'n' :: rest => literal? "ull" .null rest
    | 't' :: rest => literal? "rue" (.bool true) rest
    | 'f' :: rest => literal? "alse" (.bool false) rest
    | text => number? text
termination_by structural fuel

def items? (fuel depth : Nat) (text : List Char) : Option (List Json × List Char) :=
  match fuel with
  | 0 => none
  | fuel + 1 => do
    let (item, rest) ← value? fuel depth text
    match skipSpace rest with
    | ',' :: rest =>
      let (items, rest) ← items? fuel depth rest
      return (item :: items, rest)
    | ']' :: rest => return ([item], rest)
    | _ => none
termination_by structural fuel

def entries? (fuel depth : Nat) (text : List Char) : Option (List (String × Json) × List Char) :=
  match fuel with
  | 0 => none
  | fuel + 1 =>
    match skipSpace text with
    | '"' :: rest => do
      let (key, rest) ← stringTail? rest.length.succ rest
      match skipSpace rest with
      | ':' :: rest =>
        let (value, rest) ← value? fuel depth rest
        let entry := (String.ofList key, value)
        match skipSpace rest with
        | ',' :: rest =>
          let (entries, rest) ← entries? fuel depth rest
          return (entry :: entries, rest)
        | '\x7d' :: rest => return ([entry], rest)
        | _ => none
      | _ => none
    | _ => none
termination_by structural fuel

end

/-- The value that a text holds, with nothing but space around it. -/
def read? (text : String) : Option Json := do
  let (value, rest) ← value? (text.length + 1) 0 text.toList
  if (skipSpace rest).isEmpty then some value else none

end LogSieve.Json
