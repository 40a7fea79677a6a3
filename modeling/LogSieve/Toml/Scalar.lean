import LogSieve.Calendar
import LogSieve.Json.Reader

/-! TOML values that are written in one word: truth values, numbers, dates and times. -/

namespace LogSieve.Toml

/-- Digits with single underscores between them, without the underscores. -/
def groupedDigits? (inClass : Char → Bool) (word : List Char) : Option (List Char) :=
  let groups := word.splitOn '_'
  if groups.all fun group => !group.isEmpty && group.all inClass then some groups.flatten else none

def isDecimal (c : Char) : Bool := Text.isAsciiDigit c
def isHexadecimal (c : Char) : Bool := (Json.hexDigit? c).isSome
def isOctal (c : Char) : Bool := '0' ≤ c && c ≤ '7'
def isBinary (c : Char) : Bool := c == '0' || c == '1'

def valueOf (base : Nat) (digits : List Char) : Nat :=
  digits.foldl (fun n c => n * base + (Json.hexDigit? c).getD 0) 0

def dropSign : List Char → List Char
  | '+' :: rest => rest
  | '-' :: rest => rest
  | word => word

def wholeDigits? (word : List Char) : Option (List Char) :=
  (groupedDigits? isDecimal word).filter fun digits => digits.length == 1 || digits.head? != some '0'

def based? (base : Nat) (inClass : Char → Bool) (word : List Char) : Option Int :=
  (groupedDigits? inClass word).map fun digits => (valueOf base digits : Int)

/-- An integer of 64 bits, decimal with or without a sign, or in another base without. -/
def integer? (word : List Char) : Option Int :=
  let value := match word with
    | '0' :: 'x' :: digits => based? 16 isHexadecimal digits
    | '0' :: 'o' :: digits => based? 8 isOctal digits
    | '0' :: 'b' :: digits => based? 2 isBinary digits
    | _ => (wholeDigits? (dropSign word)).map fun digits =>
      if word.head? == some '-' then -(valueOf 10 digits : Int) else valueOf 10 digits
  value.filter fun n => -0x8000000000000000 ≤ n ∧ n ≤ 0x7fffffffffffffff

/-- Whether `digits` times a power of ten rounds to a number beyond the largest double. -/
def exceedsDouble (digits : List Char) (power : Int) : Bool :=
  let n := valueOf 10 digits
  let size := (Nat.toDigits 10 n).length + power
  if n == 0 || size < 300 then false
  else if 400 < size then true
  else
    let limit := Nat.pow 2 1024 - Nat.pow 2 970
    if 0 ≤ power then limit ≤ n * Nat.pow 10 power.toNat else limit * Nat.pow 10 power.natAbs ≤ n

/-- The exponent of a float: its value, or nothing if it is malformed. -/
def power? (word : List Char) : Option Int :=
  (groupedDigits? isDecimal (dropSign word)).map fun digits =>
    if word.head? == some '-' then -(valueOf 10 digits : Int) else valueOf 10 digits

/-- Whether a word is a float: a whole number with a fraction, an exponent or both. No positive float
may be too large for a double. -/
def isFloat (word : List Char) : Bool :=
  let unsigned := dropSign word
  if unsigned == ['i', 'n', 'f'] || unsigned == ['n', 'a', 'n'] then true
  else
    let isMark (c : Char) : Bool := c == 'e' || c == 'E'
    let mantissa := unsigned.takeWhile fun c => !isMark c
    let exponent := unsigned.dropWhile fun c => !isMark c
    let whole := mantissa.takeWhile (· != '.')
    let fraction := mantissa.dropWhile (· != '.')
    let places := if fraction.isEmpty then some [] else groupedDigits? isDecimal (fraction.drop 1)
    let power := if exponent.isEmpty then some 0 else power? (exponent.drop 1)
    match wholeDigits? whole, places, power with
    | some digits, some places, some power =>
      !(fraction.isEmpty && exponent.isEmpty) &&
        (word.head? == some '-' || !exceedsDouble (digits ++ places) (power - places.length))
    | _, _, _ => false

def twoDigits? : List Char → Option (Nat × List Char)
  | a :: b :: rest =>
    if Text.isAsciiDigit a && Text.isAsciiDigit b then some (valueOf 10 [a, b], rest) else none
  | _ => none

def expectChar (c : Char) : List Char → Option (List Char)
  | d :: rest => if c == d then some rest else none
  | [] => none

def date? (text : List Char) : Option (List Char) := do
  let year := text.take 4
  if year.length < 4 || !year.all Text.isAsciiDigit then none
  let rest ← expectChar '-' (text.drop 4)
  let (month, rest) ← twoDigits? rest
  let rest ← expectChar '-' rest
  let (day, rest) ← twoDigits? rest
  let length ← (Calendar.monthLengths (valueOf 10 year))[month - 1]?
  if 1 ≤ month && 1 ≤ day && day ≤ length then some rest else none

/-- A time `23:59:59`, with a fraction of a second or without; a minute may have a leap second. -/
def time? (text : List Char) : Option (List Char) := do
  let (hour, rest) ← twoDigits? text
  let rest ← expectChar ':' rest
  let (minute, rest) ← twoDigits? rest
  let rest ← expectChar ':' rest
  let (second, rest) ← twoDigits? rest
  if 23 < hour || 59 < minute || 60 < second then none
  match rest with
  | '.' :: rest =>
    if (rest.takeWhile Text.isAsciiDigit).isEmpty then none else some (rest.dropWhile Text.isAsciiDigit)
  | rest => some rest

/-- Nothing, `Z`, or a distance in hours and minutes. -/
def isOffset : List Char → Bool
  | [] => true
  | ['Z'] => true
  | ['z'] => true
  | c :: rest =>
    match twoDigits? rest with
    | some (hour, ':' :: rest) =>
      match twoDigits? rest with
      | some (minute, []) => (c == '+' || c == '-') && hour ≤ 23 && minute ≤ 59
      | _ => false
    | _ => false

def isDateTime (word : List Char) : Bool :=
  match date? word with
  | some [] => true
  | some (c :: rest) =>
    (c == 'T' || c == 't' || c == ' ') && ((time? rest).map isOffset).getD false
  | none => time? word == some []

def isWordChar (c : Char) : Bool :=
  Text.isAsciiDigit c || ('A' ≤ c && c ≤ 'Z') || ('a' ≤ c && c ≤ 'z') ||
    c == '_' || c == '-' || c == '+' || c == '.' || c == ':'

/-- A word, and the time after it where the word is a date and one blank parts the two. -/
def scalarWord (text : List Char) : List Char × List Char :=
  let word := text.takeWhile isWordChar
  match date? word, text.dropWhile isWordChar with
  | some [], ' ' :: rest =>
    if rest.head?.any Text.isAsciiDigit then
      (word ++ ' ' :: rest.takeWhile isWordChar, rest.dropWhile isWordChar)
    else (word, ' ' :: rest)
  | _, rest => (word, rest)

/-- The value of a word. Dates and times are tables with one entry, which no profile asks for. -/
def scalarValue? (word : List Char) : Option Json :=
  if word == "true".toList then some (.bool true)
  else if word == "false".toList then some (.bool false)
  else
    match integer? word with
    | some n => some (.integer n)
    | none =>
      if isFloat word then some (.decimal (String.ofList word))
      else if isDateTime word then
        some (.object [("datetime", .string (String.ofList word))])
      else none

def scalar? (text : List Char) : Option (Json × List Char) :=
  let (word, rest) := scalarWord text
  (scalarValue? word).map (·, rest)

end LogSieve.Toml
