import LogSieve.Toml.Scalar
import LogSieve.Toml.Text
import LogSieve.Toml.Tree

/-! Reading TOML documents. A document is read line by line; each line either opens a table or assigns
a value in the table that is open. The fuel is more than the number of characters. -/

namespace LogSieve.Toml

mutual

def value? (fuel depth : Nat) (text : List Char) : Option (Json × List Char) :=
  match fuel with
  | 0 => none
  | fuel + 1 =>
    match text with
    | '[' :: rest =>
      if depth ≥ maxDepth then none
      else do
        let (items, rest) ← items? fuel (depth + 1) (skipLines rest.length rest)
        return (.array items, rest)
    | '\x7b' :: rest =>
      if depth ≥ maxDepth then none
      else match skipBlanks rest with
        | '\x7d' :: rest => some (.object [], rest)
        | rest => do
          let (entries, rest) ← braces? fuel (depth + 1) [] rest
          return (.object (entriesToJson entries), rest)
    | '"' :: _ | '\'' :: _ => (string? text).map fun (value, rest) => (.string (String.ofList value), rest)
    | _ => scalar? text
termination_by structural fuel

def items? (fuel depth : Nat) (text : List Char) : Option (List Json × List Char) :=
  match fuel with
  | 0 => none
  | fuel + 1 =>
    match text with
    | ']' :: rest => some ([], rest)
    | _ => do
      let (item, rest) ← value? fuel depth text
      match skipLines rest.length rest with
      | ',' :: rest =>
        let (items, rest) ← items? fuel depth (skipLines rest.length rest)
        return (item :: items, rest)
      | ']' :: rest => return ([item], rest)
      | _ => none
termination_by structural fuel

/-- The entries of a table in braces, added to those read before, and the closing brace. -/
def braces? (fuel depth : Nat) (entries : Entries) (text : List Char) :
    Option (Entries × List Char) :=
  match fuel with
  | 0 => none
  | fuel + 1 => do
    let (key, rest) ← key? text
    let rest ← expectChar '=' rest
    let (value, rest) ← value? fuel depth (skipBlanks rest)
    let entries ← entries.assign value key
    match skipBlanks rest with
    | ',' :: rest => braces? fuel depth entries rest
    | '\x7d' :: rest => return (entries, rest)
    | _ => none
termination_by structural fuel

end

structure Document where
  /-- The header of the table that is open. -/
  header : List String := []
  entries : Entries := []

namespace Document

def assign (document : Document) (key : List String) (value : Json) : Option Document :=
  (document.entries.descend (·.assign value key) document.header).map ({ document with entries := · })

def openTable (document : Document) (key : List String) : Option Document := do
  let last ← key.getLast?
  let entries ← document.entries.descend (·.openTable last) key.dropLast
  return { header := key, entries }

def openElement (document : Document) (key : List String) : Option Document := do
  let last ← key.getLast?
  let entries ← document.entries.descend (·.openElement last) key.dropLast
  return { header := key, entries }

/-- What one line, blank lines apart, does to the document. -/
def line? (document : Document) (text : List Char) : Option (Document × List Char) :=
  match text with
  | '[' :: '[' :: rest => do
    let (key, rest) ← key? rest
    let rest ← expectChar ']' rest
    let rest ← expectChar ']' rest
    return (← document.openElement key, rest)
  | '[' :: rest => do
    let (key, rest) ← key? rest
    let rest ← expectChar ']' rest
    return (← document.openTable key, rest)
  | _ => do
    let (key, rest) ← key? text
    let rest ← expectChar '=' rest
    let (value, rest) ← value? (rest.length + 1) 0 (skipBlanks rest)
    return (← document.assign key value, rest)

def lines? (document : Document) : Nat → List Char → Option Document
  | 0, _ => some document
  | fuel + 1, text =>
    match skipLines text.length text with
    | [] => some document
    | text => do
      let (document, rest) ← document.line? text
      let rest ← lineRest? rest
      lines? document fuel rest

end Document

def read? (text : String) : Option Json :=
  let text := match text.toList with
    | '\ufeff' :: rest => rest
    | text => text
  (({} : Document).lines? (text.length + 1) text).map fun document =>
    .object (entriesToJson document.entries)

end LogSieve.Toml
