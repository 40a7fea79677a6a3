import LogSieve.Json.Basic

/-! Records in JSON. A record is an object, or an array of its fields in their declared order; a
field that is left out keeps the value it has in the record that reading starts from. -/

namespace LogSieve.Json
variable {α ε : Type}

/-- Set fields one after the other; the first failure is the failure of the whole. -/
def setFields (set : α → String → Json → Except ε α) (start : α) (entries : List (String × Json)) :
    Except ε α :=
  entries.foldlM (fun record (key, value) => set record key value) start

/-- Read a record with the fields `names`. Unless `surplus` is allowed, an array must not be longer
than the list of fields. -/
def record (names : List String) (surplus : Bool) (malformed : ε)
    (set : α → String → Json → Except ε α) (start : α) : Json → Except ε α
  | .object entries => setFields set start entries
  | .array items => do
    let result ← setFields set start (names.zip items)
    if surplus || items.length ≤ names.length then return result else throw malformed
  | _ => throw malformed

def expect (malformed : ε) (read : Json → Option α) (value : Json) : Except ε α :=
  match read value with
  | some result => pure result
  | none => throw malformed

def optional (read : Json → Except ε α) : Json → Except ε (Option α)
  | .null => pure none
  | value => some <$> read value

end LogSieve.Json
