import LogSieve.Filter.Clause
import LogSieve.Proofs.OrderedSets

/-! Merging filters is associative, and applying a clause is merging what the clause says by itself.
Clauses may therefore be read apart, in any grouping, and merged afterwards. What a filter says already, it
does not say a second time: to merge it once more, or to read its text once more, changes nothing. -/

namespace LogSieve.Filter

theorem TimeRange.override_assoc (first second third : TimeRange) :
    (first.override second).override third = first.override (second.override third) := by
  simp only [override, Option.or_assoc]

@[simp] theorem TimeRange.override_empty (range : TimeRange) : range.override {} = range := rfl

@[simp] theorem TimeRange.empty_override (range : TimeRange) :
    ({} : TimeRange).override range = range := by
  simp only [override, Option.or_none]

@[simp] theorem TimeRange.override_self (range : TimeRange) : range.override range = range := by
  simp only [override, Option.or_self]

@[simp] theorem merge_empty (filter : Filter) : filter.merge {} = filter := rfl

@[simp] theorem empty_merge (filter : Filter) : ({} : Filter).merge filter = filter := by
  simp only [merge, Option.or_none, OrderedSet.empty_insertAll_toList, TimeRange.empty_override]

theorem merge_assoc (first second third : Filter) :
    (first.merge second).merge third = first.merge (second.merge third) := by
  simp only [merge, Option.or_assoc, OrderedSet.insertAll_toList_insertAll,
    TimeRange.override_assoc]

theorem merge_self (filter : Filter) : filter.merge filter = filter := by
  simp only [merge, Option.or_self, OrderedSet.insertAll_toList_self, TimeRange.override_self]

theorem without_merge (filter : Filter) (field : Field) :
    (filter.without field).merge filter = filter := by
  cases field with
  | crawler => simp [without, merge]
  | path => simp [without, merge]
  | method => simp [without, merge, OrderedSet.empty_insertAll_toList]
  | status => simp [without, merge, OrderedSet.empty_insertAll_toList]
  | date => simp [without, merge]

theorem toList_method_merge (filter later : Filter) : (filter.merge later).method.toList =
    filter.method.toList ++ later.method.toList.filter (· ∉ filter.method.toList) :=
  filter.method.toList_insertAll_eq_append_filter later.method.nodup

theorem toList_status_merge (filter later : Filter) : (filter.merge later).status.toList =
    filter.status.toList ++ later.status.toList.filter (· ∉ filter.status.toList) :=
  filter.status.toList_insertAll_eq_append_filter later.status.nodup

/-- A clause changes the later of two filters, and what it leaves there overrides the earlier one. -/
theorem applyClause_merge (filter later : Filter) (clause : List Word) :
    applyClause (filter.merge later) clause = filter.merge (applyClause later clause) := by
  unfold applyClause
  cases clauseField? clause with
  | none => rfl
  | some field =>
    cases field with
    | status => simp only [merge, OrderedSet.insertAll_toList_insertAll]
    | method => simp only [merge, OrderedSet.insertAll_toList_insertAll]
    | path => simp only [merge, Option.or_assoc]
    | crawler => simp only [merge, Option.or_assoc]
    | date => simp only [merge, TimeRange.override_assoc]

theorem foldl_applyClause_merge (filter later : Filter) (clauses : List (List Word)) :
    clauses.foldl applyClause (filter.merge later) =
      filter.merge (clauses.foldl applyClause later) := by
  induction clauses generalizing later with
  | nil => rfl
  | cons clause clauses ih => rw [List.foldl_cons, List.foldl_cons, applyClause_merge, ih]

theorem foldl_applyClause_eq_merge (filter : Filter) (clauses : List (List Word)) :
    clauses.foldl applyClause filter = filter.merge (clauses.foldl applyClause {}) := by
  have apart := foldl_applyClause_merge filter {} clauses
  rwa [merge_empty] at apart

theorem applyClause_eq_merge (filter : Filter) (clause : List Word) :
    applyClause filter clause = filter.merge (applyClause {} clause) :=
  applyClause_merge filter {} clause

/-- Reading a text once more on top of what it has set changes nothing. -/
theorem refine_refine (controls : Filter) (text : String) :
    (controls.refine text).refine text = controls.refine text := by
  simp only [refine, merge_assoc, merge_self]

/-- Merging is an idempotent monoid, orders included: methods and statuses keep their places, and those
that are new come behind in an order of their own. A filter therefore restores what was cleared in it, and a
text says all it has to say the first time. -/
theorem merge_idempotent_monoid (first second third : Filter) (field : Field) (text : String) :
    (first.merge second).merge third = first.merge (second.merge third) ∧
    ({} : Filter).merge first = first ∧ first.merge {} = first ∧ first.merge first = first ∧
    (first.without field).merge first = first ∧
    (first.merge second).method.toList =
      first.method.toList ++ second.method.toList.filter (· ∉ first.method.toList) ∧
    (first.merge second).method.toList.Nodup ∧
    (first.merge second).status.toList =
      first.status.toList ++ second.status.toList.filter (· ∉ first.status.toList) ∧
    (first.merge second).status.toList.Nodup ∧
    (first.refine text).refine text = first.refine text := by
  refine ⟨merge_assoc first second third, empty_merge first, merge_empty first, merge_self first,
    without_merge first field, toList_method_merge first second, ?_, toList_status_merge first second,
    ?_, refine_refine first text⟩
  · exact (first.merge second).method.nodup
  · exact (first.merge second).status.nodup

end LogSieve.Filter
