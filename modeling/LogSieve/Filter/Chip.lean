import LogSieve.Filter.Basic

/-! Chips: one short summary for each constrained field, which can be taken off again by its key. -/

namespace LogSieve.Filter

structure Chip where
  label : String
  key : String
  deriving DecidableEq

def predicateLabel (predicate : Predicate) : String := " OR ".intercalate predicate.values

/-- The label of a field, if the field is constrained. -/
def label? (filter : Filter) : Field → Option String
  | .crawler => filter.crawler.map fun predicate => "Crawler: " ++ predicateLabel predicate
  | .path => filter.path.map fun predicate => "Path: " ++ predicateLabel predicate
  | .method =>
    if filter.method.isEmpty then none
    else some ("Method: " ++ ", ".intercalate filter.method.toList)
  | .status =>
    if filter.status.isEmpty then none
    else some ("Status: " ++ ", ".intercalate (filter.status.toList.map fun status => toString status.toNat))
  | .date =>
    match filter.time.start, filter.time.stop with
    | some start, some stop => some ("Date: " ++ start ++ " to " ++ stop)
    | some start, none => some ("Date: from " ++ start)
    | none, some stop => some ("Date: until " ++ stop)
    | none, none => none

def chip? (filter : Filter) (field : Field) : Option Chip :=
  (filter.label? field).map fun label => { label, key := field.key }

def chips (filter : Filter) : List Chip := Field.all.filterMap filter.chip?

/-- The filter without the constraint behind a chip. Only the key counts; an unknown one changes
nothing. -/
def removeChip (filter : Filter) (chip : Chip) : Filter :=
  match Field.ofKey? chip.key with
  | some field => filter.without field
  | none => filter

end LogSieve.Filter
