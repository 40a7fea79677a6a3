import LogSieve.Filter.Clause
import LogSieve.Filter.QueryText
import LogSieve.Filter.Chip

/-! A session of edits. Each edit takes the filter at hand to the next one. -/

namespace LogSieve.Filter

inductive Edit where
  | addMethods (methods : List String)
  | addStatuses (statuses : List UInt16)
  | setCrawler (predicate : Option Predicate)
  | setPath (predicate : Option Predicate)
  | setTime (range : TimeRange)
  | clear (field : Field)
  | removeKey (key : String)
  | merge (later : Filter)
  | refine (text : String)
  | replace (text : String)
  | reread

def Edit.apply (filter : Filter) : Edit → Filter
  | addMethods methods => { filter with method := filter.method.insertAll methods }
  | addStatuses statuses => { filter with status := filter.status.insertAll statuses }
  | setCrawler predicate => { filter with crawler := predicate }
  | setPath predicate => { filter with path := predicate }
  | setTime range => { filter with time := range }
  | clear field => filter.without field
  | removeKey key => filter.removeChip { label := "", key }
  | merge later => filter.merge later
  | refine text => filter.refine text
  | replace text => ofText text
  | reread => ofText filter.toText

end LogSieve.Filter
