import LogSieve.Json.Basic
import LogSieve.Text.Quoted

/-! Writing JSON text: on one line without space, or laid out with two spaces a level. -/

namespace LogSieve.Json

def controlCode (c : Char) : List Char :=
  let digits := Text.hexadecimal c.toNat
  if digits.length < 2 then '0' :: digits else digits

def stringChar (c : Char) : List Char :=
  if c = '"' then ['\\', '"']
  else if c = '\\' then ['\\', '\\']
  else if c = '\x08' then ['\\', 'b']
  else if c = '\x0c' then ['\\', 'f']
  else if c = '\n' then ['\\', 'n']
  else if c = '\r' then ['\\', 'r']
  else if c = '\t' then ['\\', 't']
  else if c.toNat < 0x20 then ['\\', 'u', '0', '0'] ++ controlCode c
  else [c]

def writtenString (value : String) : String :=
  String.ofList ('"' :: value.toList.flatMap stringChar ++ ['"'])

mutual

def compact : Json → String
  | .null => "null"
  | .bool value => if value then "true" else "false"
  | .integer value => toString value
  | .decimal literal => literal
  | .string value => writtenString value
  | .array items => "[" ++ ",".intercalate (compactItems items) ++ "]"
  | .object entries => "\x7b" ++ ",".intercalate (compactEntries entries) ++ "\x7d"

def compactItems : List Json → List String
  | [] => []
  | item :: items => compact item :: compactItems items

def compactEntries : List (String × Json) → List String
  | [] => []
  | (key, value) :: entries => (writtenString key ++ ":" ++ compact value) :: compactEntries entries

end

/-- Items between brackets, one a line; brackets without items stay together. -/
def block (opening closing : String) (depth : Nat) (items : List String) : String :=
  if items.isEmpty then opening ++ closing
  else
    let inner := String.ofList (List.replicate (2 * (depth + 1)) ' ')
    let outer := String.ofList (List.replicate (2 * depth) ' ')
    opening ++ "\n" ++ inner ++ (",\n" ++ inner).intercalate items ++ "\n" ++ outer ++ closing

mutual

/-- The value laid out over lines, inside `depth` brackets. -/
def layout (depth : Nat) : Json → String
  | .array items => block "[" "]" depth (layoutItems (depth + 1) items)
  | .object entries => block "\x7b" "\x7d" depth (layoutEntries (depth + 1) entries)
  | .null => "null"
  | .bool value => if value then "true" else "false"
  | .integer value => toString value
  | .decimal literal => literal
  | .string value => writtenString value

def layoutItems (depth : Nat) : List Json → List String
  | [] => []
  | item :: items => layout depth item :: layoutItems depth items

def layoutEntries (depth : Nat) : List (String × Json) → List String
  | [] => []
  | (key, value) :: entries =>
    (writtenString key ++ ": " ++ layout depth value) :: layoutEntries depth entries

end

def pretty (value : Json) : String := value.layout 0

end LogSieve.Json
