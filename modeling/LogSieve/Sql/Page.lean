import LogSieve.Json.Record
import LogSieve.Sql.Error

/-! Pages of a result, counted from one. -/

namespace LogSieve.Sql

structure Page where
  number : UInt32
  size : UInt32
  deriving DecidableEq

/-- The stretch of rows that a page shows. -/
structure Window where
  limit : UInt32
  offset : Int64
  deriving DecidableEq

namespace Page

def rowsBefore (page : Page) : Nat := (page.number.toNat - 1) * page.size.toNat

/-- Offsets are integers of 64 bits. -/
def offsetLimit : Nat := 0x8000000000000000

def window (page : Page) (maxSize : UInt32) : Except Error Window :=
  if page.number = 0 then throw (.badPage page.number)
  else if page.size = 0 ∨ maxSize < page.size then throw (.badPageSize page.size maxSize)
  else if page.rowsBefore < offsetLimit then
    pure { limit := page.size, offset := Int64.ofNat page.rowsBefore }
  else throw .offsetOverflow

def setField (fields : Option UInt32 × Option UInt32) (key : String) (value : Json) :
    Except Unit (Option UInt32 × Option UInt32) :=
  match key with
  | "page" => do return (some (← Json.expect () Json.uint32? value), fields.2)
  | "page_size" => do return (fields.1, some (← Json.expect () Json.uint32? value))
  | _ => pure fields

/-- Both the number and the size have to be given. -/
def ofJson? (json : Json) : Option Page :=
  match Json.record ["page", "page_size"] false () setField (none, none) json with
  | .ok (some number, some size) => some { number, size }
  | _ => none

end Page

end LogSieve.Sql
