import LogSieve.Filter.Clause
import LogSieve.Proofs.OrderedSets

/-! The order of clauses. A clause reads and writes the field that it names and no other, so that what a
run of clauses makes of a field is told by its own clauses in their order. Clauses on different fields may
change places; those on one field may not, except that methods and statuses are the same sets in any order. -/

namespace LogSieve.Filter

def only (filter : Filter) : Field → Filter
  | .crawler => { crawler := filter.crawler }
  | .path => { path := filter.path }
  | .method => { method := filter.method }
  | .status => { status := filter.status }
  | .date => { time := filter.time }

theorem eq_of_only {filter other : Filter} (alike : ∀ field, filter.only field = other.only field) :
    filter = other := by
  have crawler := congrArg Filter.crawler (alike .crawler)
  have path := congrArg Filter.path (alike .path)
  have method := congrArg Filter.method (alike .method)
  have status := congrArg Filter.status (alike .status)
  have time := congrArg Filter.time (alike .date)
  cases filter
  cases other
  simp_all [only]

variable {filter other : Filter} {clause : List Word} {field : Field}

theorem only_applyClause_of_ne (unnamed : clauseField? clause ≠ some field) :
    (applyClause filter clause).only field = filter.only field := by
  unfold applyClause
  cases named : clauseField? clause with
  | none => rfl
  | some about =>
    rw [named] at unnamed
    cases about <;> cases field <;> first | rfl | exact absurd rfl unnamed

/-- What a clause makes of a field does not depend on the other fields. -/
theorem only_applyClause_congr (alike : filter.only field = other.only field) :
    (applyClause filter clause).only field = (applyClause other clause).only field := by
  by_cases unnamed : clauseField? clause = some field
  · cases field <;> simp_all [applyClause, only]
  · rw [only_applyClause_of_ne unnamed, only_applyClause_of_ne unnamed, alike]

/-- What a run of clauses makes of a field is what its own clauses make of it. -/
theorem only_foldl_applyClause (alike : filter.only field = other.only field)
    (clauses : List (List Word)) : (clauses.foldl applyClause filter).only field =
      ((clauses.filter fun clause => clauseField? clause = some field).foldl applyClause other).only
        field := by
  induction clauses generalizing filter other with
  | nil => exact alike
  | cons clause clauses ih =>
    by_cases named : clauseField? clause = some field
    · rw [List.filter_cons_of_pos (by simpa using named)]
      exact ih (only_applyClause_congr alike)
    · rw [List.filter_cons_of_neg (by simpa using named)]
      exact ih ((only_applyClause_of_ne named).trans alike)

/-- Clauses may be put in any order that keeps the order on each field, and those that name no field may
be left out or put in anywhere. -/
theorem foldl_applyClause_eq {first second : List (List Word)}
    (order : ∀ field, (first.filter fun clause => clauseField? clause = some field) =
      second.filter fun clause => clauseField? clause = some field) (filter : Filter) :
    first.foldl applyClause filter = second.foldl applyClause filter := by
  apply eq_of_only
  intro field
  have left := only_foldl_applyClause (rfl : filter.only field = filter.only field) first
  have right := only_foldl_applyClause (rfl : filter.only field = filter.only field) second
  rw [left, right, order field]

def clauseStatuses (clause : List Word) : List UInt16 :=
  if clauseField? clause = some .status then (alternatives clause).flatten.flatMap wordStatuses else []

def clauseMethods (clause : List Word) : List String :=
  if clauseField? clause = some .method then (alternatives clause).flatten.flatMap wordMethods else []

theorem status_applyClause (filter : Filter) (clause : List Word) :
    (applyClause filter clause).status = filter.status.insertAll (clauseStatuses clause) := by
  unfold applyClause clauseStatuses
  cases clauseField? clause with
  | none => rfl
  | some field => cases field <;> rfl

theorem method_applyClause (filter : Filter) (clause : List Word) :
    (applyClause filter clause).method = filter.method.insertAll (clauseMethods clause) := by
  unfold applyClause clauseMethods
  cases clauseField? clause with
  | none => rfl
  | some field => cases field <;> rfl

/-- Two clauses that are not about one field may change places, whatever their words and the filter. Any two
clauses give the same statuses and the same methods in either order, though these need not come in one
order. -/
theorem applyClause_comm (filter : Filter) (first second : List Word) :
    ((∀ field, clauseField? first = some field → clauseField? second ≠ some field) →
      applyClause (applyClause filter first) second = applyClause (applyClause filter second) first) ∧
    (applyClause (applyClause filter first) second).status.toList.Perm
      (applyClause (applyClause filter second) first).status.toList ∧
    (applyClause (applyClause filter first) second).method.toList.Perm
      (applyClause (applyClause filter second) first).method.toList := by
  refine ⟨fun apart => ?_, ?_, ?_⟩
  · have swap (field : Field) : ([first, second].filter fun clause => clauseField? clause = some field) =
        [second, first].filter fun clause => clauseField? clause = some field := by
      by_cases named : clauseField? first = some field
      · simp [named, apart field named]
      · simp [List.filter_cons, named]
    exact foldl_applyClause_eq swap filter
  · simp only [status_applyClause]
    exact OrderedSet.insertAll_insertAll_perm _ _ _
  · simp only [method_applyClause]
    exact OrderedSet.insertAll_insertAll_perm _ _ _

theorem applyClause_comm_path_status :
    clauseField? (Text.words "path = /search OR /robots.txt".toList) = some .path ∧
    clauseField? (Text.words "status = 404 OR 500".toList) = some .status ∧
    applyClause (applyClause {} (Text.words "path = /search OR /robots.txt".toList))
        (Text.words "status = 404 OR 500".toList) =
      applyClause (applyClause {} (Text.words "status = 404 OR 500".toList))
        (Text.words "path = /search OR /robots.txt".toList) := by
  have path : clauseField? (Text.words "path = /search OR /robots.txt".toList) = some .path := by
    decide +kernel
  have status : clauseField? (Text.words "status = 404 OR 500".toList) = some .status := by
    decide +kernel
  refine ⟨path, status, (applyClause_comm {} _ _).1 fun field same => ?_⟩
  rw [status, ← same, path]
  decide

end LogSieve.Filter
