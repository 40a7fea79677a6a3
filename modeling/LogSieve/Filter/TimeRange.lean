import LogSieve.Calendar

/-! Inclusive bounds on the time of a record. The store compares times as texts, so a bound is any
text. In the text language a range is `start`, `start:stop` or `:stop`; as times hold colons
too, the two bounds part only where a year follows the colon. A range may also reach back from now. -/

namespace LogSieve.Filter

structure TimeRange where
  start : Option String := none
  stop : Option String := none
  deriving DecidableEq

namespace TimeRange

def isEmpty (range : TimeRange) : Bool := range.start.isNone && range.stop.isNone

def override (range later : TimeRange) : TimeRange :=
  { start := later.start.or range.start, stop := later.stop.or range.stop }

def isTimeChar (c : Char) : Bool := Text.isAsciiDigit c || c == 'T' || c == ':' || c == '-'

def dropEndColons (text : List Char) : List Char := (text.reverse.dropWhile (· == ':')).reverse

/-- Four digits, and after them nothing or a hyphen. -/
def beginsWithYear : List Char → Bool
  | a :: b :: c :: d :: rest =>
    [a, b, c, d].all Text.isAsciiDigit && (rest.isEmpty || rest.head? == some '-')
  | _ => false

/-- The two sides of the first colon that a year follows. -/
def splitAtYear? : List Char → Option (List Char × List Char)
  | [] => none
  | c :: rest =>
    if c == ':' && beginsWithYear rest then some ([], rest)
    else (splitAtYear? rest).map fun (before, after) => (c :: before, after)

/-- The bounds that an operand names: those of its longest beginning in the alphabet of times.
Colons at either end, and more than one between the bounds, count for nothing. -/
def ofOperand? (operand : List Char) : Option TimeRange :=
  match dropEndColons (operand.takeWhile isTimeChar) with
  | [] => none
  | ':' :: rest => some { stop := some (String.ofList (rest.dropWhile (· == ':'))) }
  | token =>
    match splitAtYear? token with
    | some (before, after) =>
      some { start := some (String.ofList (dropEndColons before)), stop := some (String.ofList after) }
    | none => some { start := some (String.ofList token) }

/-- The operand that would name this range, were its bounds times. -/
def operand? (range : TimeRange) : Option String :=
  match range.start, range.stop with
  | some start, some stop => some (start ++ ":" ++ stop)
  | some start, none => some start
  | none, some stop => some (":" ++ stop)
  | none, none => none

/-- The operand of the range, provided that it names the same range when read back. -/
def faithfulOperand? (range : TimeRange) : Option String :=
  range.operand?.filter fun operand => ofOperand? operand.toList = some range

/-- All since `hours` before `now`; nothing if the calendar does not reach back that far. -/
def lastHours? (hours : UInt32) (now : Moment) : Option TimeRange :=
  (now.hoursBefore? hours.toNat).map fun moment => { start := some moment.text }

end TimeRange

end LogSieve.Filter
