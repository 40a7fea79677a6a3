import Mathlib.Data.List.Perm.Subperm
import LogSieve.Filter.Basic

/-! Ordered sets as lists. Inserting adds exactly the new members; where none of them repeats, it
appends. -/

namespace LogSieve.OrderedSet
variable {α : Type} [DecidableEq α]

theorem isEmpty_iff {α : Type} {set : OrderedSet α} : set.isEmpty = true ↔ set = ∅ := by
  rw [isEmpty, List.isEmpty_iff]
  exact ⟨fun none => ext none, fun empty => congrArg toList empty⟩

@[simp] theorem mem_insert {set : OrderedSet α} {item other : α} :
    other ∈ (set.insert item).toList ↔ other ∈ set.toList ∨ other = item := by
  rw [toList_insert]
  split
  next present => exact ⟨.inl, fun member => member.elim id fun same => same ▸ present⟩
  next => simp

@[simp] theorem mem_insertAll {set : OrderedSet α} {items : List α} {other : α} :
    other ∈ (set.insertAll items).toList ↔ other ∈ set.toList ∨ other ∈ items := by
  induction items generalizing set with
  | nil => simp
  | cons item items ih => simp [ih, or_assoc]

@[simp] theorem mem_ofList {items : List α} {other : α} :
    other ∈ (ofList items).toList ↔ other ∈ items := by
  rw [ofList, mem_insertAll]
  exact or_iff_right (List.not_mem_nil (a := other))

/-- Items added in another order make the same set, though its members may come in another order. -/
theorem insertAll_insertAll_perm (set : OrderedSet α) (first second : List α) :
    ((set.insertAll first).insertAll second).toList.Perm
      ((set.insertAll second).insertAll first).toList := by
  rw [List.perm_ext_iff_of_nodup (nodup _) (nodup _)]
  intro item
  simp only [mem_insertAll]
  exact or_right_comm

theorem insert_of_mem {set : OrderedSet α} {item : α} (present : item ∈ set.toList) :
    set.insert item = set := by
  apply ext
  rw [toList_insert, if_pos present]

theorem insertAll_of_subset {set : OrderedSet α} {items : List α} (within : items ⊆ set.toList) :
    set.insertAll items = set := by
  induction items with
  | nil => rfl
  | cons item items ih =>
    obtain ⟨present, rest⟩ := List.cons_subset.mp within
    rw [insertAll_cons, insert_of_mem present, ih rest]

@[simp] theorem insertAll_toList_self (set : OrderedSet α) : set.insertAll set.toList = set :=
  insertAll_of_subset (List.Subset.refl set.toList)

/-- Of distinct items, the new ones come behind the members, in their own order. -/
theorem toList_insertAll_eq_append_filter (set : OrderedSet α) {items : List α}
    (distinct : items.Nodup) :
    (set.insertAll items).toList = set.toList ++ items.filter (· ∉ set.toList) := by
  induction items generalizing set with
  | nil => simp
  | cons item items ih =>
    obtain ⟨single, rest⟩ := List.nodup_cons.mp distinct
    rw [insertAll_cons, ih _ rest]
    by_cases present : item ∈ set.toList
    · rw [insert_of_mem present, List.filter_cons_of_neg (by simpa using present)]
    · have grown : (set.insert item).toList = set.toList ++ [item] := by
        rw [toList_insert, if_neg present]
      have later : items.filter (· ∉ (set.insert item).toList) = items.filter (· ∉ set.toList) := by
        apply List.filter_congr
        intro other member
        have apart : other ≠ item := fun same => single (same ▸ member)
        simp [apart]
      rw [later, grown, List.filter_cons_of_pos (by simpa using present), List.append_assoc]
      rfl

theorem toList_insertAll (set : OrderedSet α) {items : List α}
    (distinct : (set.toList ++ items).Nodup) :
    (set.insertAll items).toList = set.toList ++ items := by
  obtain ⟨-, fresh, apart⟩ := List.nodup_append.mp distinct
  rw [toList_insertAll_eq_append_filter set fresh, List.filter_eq_self.mpr]
  intro item member
  simpa using fun present => apart item present item member rfl

theorem toList_ofList {items : List α} (distinct : items.Nodup) : (ofList items).toList = items :=
  toList_insertAll empty distinct

theorem nodup_of_toList_ofList {items members : List α} (same : (ofList items).toList = members)
    (length : items.length = members.length) : items.Nodup := by
  have inside : members ⊆ items := fun item member => mem_ofList.mp (same ▸ member)
  have distinct : members.Nodup := same ▸ (ofList items).nodup
  have perm := (distinct.subperm inside).perm_of_length_le (Nat.le_of_eq length)
  exact perm.nodup_iff.mp distinct

theorem empty_insertAll_toList (set : OrderedSet α) :
    (∅ : OrderedSet α).insertAll set.toList = set :=
  ext (toList_ofList set.nodup)

theorem insertAll_toList_insert (set later : OrderedSet α) (item : α) :
    set.insertAll (later.insert item).toList = (set.insertAll later.toList).insert item := by
  by_cases present : item ∈ later.toList
  · have among : item ∈ (set.insertAll later.toList).toList := mem_insertAll.mpr (.inr present)
    rw [insert_of_mem present, insert_of_mem among]
  · rw [toList_insert, if_neg present, insertAll_append]
    rfl

theorem insertAll_toList_insertAll (set later : OrderedSet α) (items : List α) :
    set.insertAll (later.insertAll items).toList = (set.insertAll later.toList).insertAll items := by
  induction items generalizing later with
  | nil => rfl
  | cons item items ih => rw [insertAll_cons, ih, insertAll_toList_insert, insertAll_cons]

end LogSieve.OrderedSet

namespace LogSieve.Filter.Predicate

theorem ofValues?_eq_none_iff {literals : List String} :
    ofValues? literals = none ↔ literals = [] := by
  have empty : (OrderedSet.ofList literals).toList = [] ↔ literals = [] := by
    simp [List.eq_nil_iff_forall_not_mem]
  rw [← empty, ofValues?]
  split <;> simp_all

theorem values_ofValues? (literals : List String) :
    (ofValues? literals).elim [] values = (OrderedSet.ofList literals).toList := by
  rw [ofValues?]
  split <;> simp_all [values]

end LogSieve.Filter.Predicate
