import LogSieve.Filter.Field
import LogSieve.Filter.TimeRange
import LogSieve.OrderedSet

/-! Filters: all constraints on the records that a search shows. An absent field constrains
nothing. Later settings replace texts and time bounds, and add to methods and statuses. A text column is
held to one literal, or to any of several; `ofValues?` gives the regular form of these, in which `anyOf`
holds two distinct literals or more. -/

namespace LogSieve

namespace Filter

inductive Predicate where
  | single (value : String)
  | anyOf (values : List String)
  deriving DecidableEq

namespace Predicate

def values : Predicate → List String
  | single value => [value]
  | anyOf values => values

/-- Repeated literals count once, at their first place; no literal at all is no constraint. -/
def ofValues? (values : List String) : Option Predicate :=
  match (OrderedSet.ofList values).toList with
  | [] => none
  | [value] => some (single value)
  | distinct => some (anyOf distinct)

end Predicate

end Filter

structure Filter where
  crawler : Option Filter.Predicate := none
  path : Option Filter.Predicate := none
  method : OrderedSet String := ∅
  status : OrderedSet UInt16 := ∅
  time : Filter.TimeRange := {}
  deriving DecidableEq

namespace Filter

def isEmpty (filter : Filter) : Bool :=
  filter.crawler.isNone && filter.path.isNone && filter.method.isEmpty && filter.status.isEmpty &&
    filter.time.isEmpty

def without (filter : Filter) : Field → Filter
  | .crawler => { filter with crawler := none }
  | .path => { filter with path := none }
  | .method => { filter with method := ∅ }
  | .status => { filter with status := ∅ }
  | .date => { filter with time := {} }

/-- The constraints of `later` on top of those of `filter`: texts and time bounds replace, methods
and statuses are added behind. -/
def merge (filter later : Filter) : Filter :=
  { crawler := later.crawler.or filter.crawler
    path := later.path.or filter.path
    method := filter.method.insertAll later.method.toList
    status := filter.status.insertAll later.status.toList
    time := filter.time.override later.time }

end Filter

end LogSieve
