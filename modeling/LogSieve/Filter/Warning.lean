import LogSieve.Catalog
import LogSieve.Filter.Basic

/-! Values that the controls would not offer. They are bound as they are, with a word of warning. -/

namespace LogSieve.Filter

inductive Warning where
  | unknownMethod (method : String)
  | statusOutOfRange (status : UInt16)
  deriving DecidableEq

def Warning.message : Warning → String
  | unknownMethod method =>
    "Unknown HTTP method '" ++ method ++ "'. Known methods are: " ++ ", ".intercalate knownMethods
  | statusOutOfRange status =>
    "Status " ++ toString status.toNat ++ " is outside the HTTP range 100-599"

def methodWarning? (method : String) : Option Warning :=
  if method ∈ knownMethods then none else some (.unknownMethod method)

def statusWarning? (status : UInt16) : Option Warning :=
  if 100 ≤ status ∧ status ≤ 599 then none else some (.statusOutOfRange status)

def warnings (filter : Filter) : List Warning :=
  filter.method.toList.filterMap methodWarning? ++ filter.status.toList.filterMap statusWarning?

end LogSieve.Filter
