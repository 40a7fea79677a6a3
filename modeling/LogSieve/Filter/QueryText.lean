import LogSieve.Text.Character
import LogSieve.Filter.Basic
import LogSieve.Filter.Separator

/-! Filters written in the text language. A value without a written form is left out: a literal that
holds a blank or would be taken for a separator, or a time range that would read back
differently. -/

namespace LogSieve.Filter

def isExpressible (literal : String) : Bool :=
  !literal.isEmpty && !literal.toList.any Text.isBlank &&
    !Text.sameAscii "and".toList literal.toList && !Text.sameAscii "or".toList literal.toList

def expressible (predicate : Option Predicate) : List String :=
  (predicate.elim [] Predicate.values).filter isExpressible

def terms (filter : Filter) : Field → List String
  | .crawler => (expressible filter.crawler).map ("crawler contains " ++ ·)
  | .path => (expressible filter.path).map ("path contains " ++ ·)
  | .method => filter.method.toList.map ("method = " ++ ·)
  | .status => filter.status.toList.map fun status => "status = " ++ toString status.toNat
  | .date => filter.time.faithfulOperand?.toList.map ("date = " ++ ·)

/-- A field without a term gets no clause. -/
def clauseText? (filter : Filter) (field : Field) : Option String :=
  match filter.terms field with
  | [] => none
  | terms => some (" OR ".intercalate terms)

def toText (filter : Filter) : String :=
  " AND ".intercalate (Field.all.filterMap filter.clauseText?)

end LogSieve.Filter
