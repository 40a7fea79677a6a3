import LogSieve.Filter.Chip
import LogSieve.Proofs.Merging

/-! Filters in regular form: a predicate with alternatives has at least two, and no two of them agree.
Predicates made of values are regular, and everything that takes a filter to another one leaves those it
finds as they are or puts such predicates in their place. -/

namespace LogSieve.Filter

namespace Predicate

def Regular : Predicate → Prop
  | single _ => True
  | anyOf values => 2 ≤ values.length ∧ values.Nodup

instance (predicate : Predicate) : Decidable predicate.Regular :=
  match predicate with
  | single _ => inferInstanceAs (Decidable True)
  | anyOf values => inferInstanceAs (Decidable (2 ≤ values.length ∧ values.Nodup))

theorem regular_of_ofValues? {literals : List String} {predicate : Predicate}
    (made : ofValues? literals = some predicate) : predicate.Regular := by
  have distinct := (OrderedSet.ofList literals).nodup
  rw [ofValues?] at made
  generalize (OrderedSet.ofList literals).toList = values at made distinct
  cases values with
  | nil => cases made
  | cons first others =>
    cases others with
    | nil =>
      cases made
      trivial
    | cons second others =>
      cases made
      exact ⟨Nat.le_add_left 2 others.length, distinct⟩

/-- Regular predicates are those that their own values make again. -/
theorem regular_iff {predicate : Predicate} :
    predicate.Regular ↔ ofValues? predicate.values = some predicate := by
  refine ⟨?_, regular_of_ofValues?⟩
  intro regular
  cases predicate with
  | single value => rfl
  | anyOf values =>
    obtain ⟨several, distinct⟩ := regular
    rw [Predicate.values, ofValues?, OrderedSet.toList_ofList distinct]
    cases values with
    | nil => cases several
    | cons first others =>
      cases others with
      | nil => exact absurd several (Nat.not_succ_le_self 1)
      | cons second others => rfl

theorem Regular.values_ne_nil {predicate : Predicate} (regular : predicate.Regular) :
    predicate.values ≠ [] := by
  intro empty
  rw [regular_iff, empty] at regular
  cases regular

end Predicate

structure Regular (filter : Filter) : Prop where
  crawler : ∀ predicate ∈ filter.crawler, predicate.Regular
  path : ∀ predicate ∈ filter.path, predicate.Regular

theorem regular_empty : ({} : Filter).Regular := by
  constructor
  · intro predicate present
    cases present
  · intro predicate present
    cases present

theorem forall_mem_or {α : Type} {property : α → Prop} {later prior : Option α}
    (replacing : ∀ chosen ∈ later, property chosen) (kept : ∀ chosen ∈ prior, property chosen) :
    ∀ chosen ∈ later.or prior, property chosen := by
  cases later with
  | none => exact kept
  | some chosen => exact replacing

namespace Regular
variable {filter later : Filter}

theorem merge (regular : filter.Regular) (also : later.Regular) : (filter.merge later).Regular :=
  ⟨forall_mem_or also.crawler regular.crawler, forall_mem_or also.path regular.path⟩

theorem without (regular : filter.Regular) (field : Field) : (filter.without field).Regular := by
  cases field with
  | crawler => exact ⟨regular_empty.crawler, regular.path⟩
  | path => exact ⟨regular.crawler, regular_empty.path⟩
  | method => exact ⟨regular.crawler, regular.path⟩
  | status => exact ⟨regular.crawler, regular.path⟩
  | date => exact ⟨regular.crawler, regular.path⟩

theorem removeChip (regular : filter.Regular) (chip : Chip) : (filter.removeChip chip).Regular := by
  unfold Filter.removeChip
  split
  next field _ => exact regular.without field
  next => exact regular

theorem applyClause (regular : filter.Regular) (clause : List Word) :
    (applyClause filter clause).Regular := by
  have made (field : Field) : ∀ predicate ∈ clausePredicate? field clause, predicate.Regular :=
    fun predicate named => Predicate.regular_of_ofValues? named
  unfold Filter.applyClause
  cases clauseField? clause with
  | none => exact regular
  | some field =>
    cases field with
    | crawler => exact ⟨forall_mem_or (made .crawler) regular.crawler, regular.path⟩
    | path => exact ⟨regular.crawler, forall_mem_or (made .path) regular.path⟩
    | method => exact ⟨regular.crawler, regular.path⟩
    | status => exact ⟨regular.crawler, regular.path⟩
    | date => exact ⟨regular.crawler, regular.path⟩

theorem foldl_applyClause (regular : filter.Regular) (clauses : List (List Word)) :
    (clauses.foldl Filter.applyClause filter).Regular := by
  apply List.foldlRecOn clauses Filter.applyClause regular
  intro current kept clause _
  exact kept.applyClause clause

end Regular

/-- Whatever is read from a text is regular. -/
theorem regular_ofText (text : String) : (ofText text).Regular :=
  regular_empty.foldl_applyClause (clauses text.toList)

end LogSieve.Filter
