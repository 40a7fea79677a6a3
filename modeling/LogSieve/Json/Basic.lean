/-! JSON values. An object keeps its entries in the order in which they were written, and a
number written with a fraction or an exponent is kept apart from the integers, as it is never
accepted where an integer is asked for. -/

namespace LogSieve

inductive Json where
  | null
  | bool (value : Bool)
  | integer (value : Int)
  | decimal (literal : String)
  | string (value : String)
  | array (items : List Json)
  | object (entries : List (String × Json))
  deriving Inhabited

namespace Json

/-- The value under a key; of a key written twice the last value counts. -/
def lookup (key : String) (entries : List (String × Json)) : Option Json :=
  entries.reverse.lookup key

def field? (key : String) : Json → Option Json
  | .object entries => lookup key entries
  | _ => none

def string? : Json → Option String
  | .string value => some value
  | _ => none

def bool? : Json → Option Bool
  | .bool value => some value
  | _ => none

def array? : Json → Option (List Json)
  | .array items => some items
  | _ => none

/-- An integer from `low` to `high`, both included. -/
def integerWithin? (low high : Int) : Json → Option Int
  | .integer value => if low ≤ value ∧ value ≤ high then some value else none
  | _ => none

def int64? (value : Json) : Option Int64 :=
  (value.integerWithin? (-0x8000000000000000) 0x7fffffffffffffff).map Int64.ofInt

def int32? (value : Json) : Option Int32 :=
  (value.integerWithin? (-0x80000000) 0x7fffffff).map Int32.ofInt

def uint16? (value : Json) : Option UInt16 :=
  (value.integerWithin? 0 0xffff).map fun n => UInt16.ofNat n.toNat

def uint32? (value : Json) : Option UInt32 :=
  (value.integerWithin? 0 0xffffffff).map fun n => UInt32.ofNat n.toNat

def strings? (value : Json) : Option (List String) :=
  value.array?.bind (·.mapM string?)

end Json

end LogSieve
