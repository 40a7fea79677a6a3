import LogSieve.Json.Basic

/-! Trees of TOML tables as they grow line by line. A table remembers how it came about, for that
decides who may still add to it: a table of its own header is closed to a second header and to
points in keys, a table made by points is open to points only, and one that merely lies on the
way to another is open to a header. -/

namespace LogSieve.Toml

inductive Origin where
  | onTheWay
  | header
  | points
  deriving DecidableEq

inductive Node where
  /-- A finished value; a table written in braces is one. -/
  | leaf (value : Json)
  | table (origin : Origin) (entries : List (String × Node))
  /-- Tables of one name, the latest last. -/
  | tables (closed : List (List (String × Node))) (latest : List (String × Node))
  deriving Inhabited

abbrev Entries := List (String × Node)

namespace Entries

def alter (change : Option Node → Option Node) (key : String) : Entries → Option Entries
  | [] => (change none).map fun node => [(key, node)]
  | (other, node) :: rest =>
    if other == key then (change (some node)).map fun node => (key, node) :: rest
    else (alter change key rest).map ((other, node) :: ·)

/-- Go down a path of headers and change the entries at its end. -/
def descend (change : Entries → Option Entries) : List String → Entries → Option Entries
  | [], entries => change entries
  | key :: path, entries =>
    entries.alter (fun
      | none => (descend change path []).map (.table .onTheWay)
      | some (.leaf _) => none
      | some (.table origin inner) => (descend change path inner).map (.table origin)
      | some (.tables closed latest) => (descend change path latest).map (.tables closed)) key

/-- Assign a value to a key, whose points open tables. -/
def assign (value : Json) : List String → Entries → Option Entries
  | [], _ => none
  | [key], entries =>
    entries.alter (fun
      | none => some (.leaf value)
      | some _ => none) key
  | key :: path, entries =>
    entries.alter (fun
      | none => (assign value path []).map (.table .points)
      | some (.table .points inner) => (assign value path inner).map (.table .points)
      | some (.table .onTheWay inner) =>
        if path.length > 1 then (assign value path inner).map (.table .onTheWay) else none
      | some (.tables closed latest) =>
        if path.length > 1 then (assign value path latest).map (.tables closed) else none
      | some _ => none) key

def openTable (key : String) (entries : Entries) : Option Entries :=
  entries.alter (fun
    | none => some (.table .header [])
    | some (.table .onTheWay inner) => some (.table .header inner)
    | some _ => none) key

def openElement (key : String) (entries : Entries) : Option Entries :=
  entries.alter (fun
    | none => some (.tables [] [])
    | some (.tables closed latest) => some (.tables (closed ++ [latest]) [])
    | some _ => none) key

end Entries

mutual

def Node.toJson : Node → Json
  | .leaf value => value
  | .table _ entries => .object (entriesToJson entries)
  | .tables closed latest => .array (tablesToJson closed ++ [.object (entriesToJson latest)])

def entriesToJson : List (String × Node) → List (String × Json)
  | [] => []
  | (key, node) :: rest => (key, node.toJson) :: entriesToJson rest

def tablesToJson : List (List (String × Node)) → List Json
  | [] => []
  | entries :: rest => .object (entriesToJson entries) :: tablesToJson rest

end

end LogSieve.Toml
