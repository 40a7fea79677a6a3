/-! Finite sets that keep the order in which their members arrived. A member that
arrives again keeps its first place, so the members are never repeated. -/

namespace LogSieve

structure OrderedSet (α : Type) where
  toList : List α
  nodup : toList.Nodup
  deriving DecidableEq

namespace OrderedSet
variable {α : Type}

def empty : OrderedSet α := ⟨[], List.nodup_nil⟩

instance : EmptyCollection (OrderedSet α) := ⟨empty⟩
instance : Inhabited (OrderedSet α) := ⟨empty⟩

@[simp] theorem toList_empty : (∅ : OrderedSet α).toList = [] := rfl

def isEmpty (set : OrderedSet α) : Bool := set.toList.isEmpty

@[ext] theorem ext {left right : OrderedSet α} (same : left.toList = right.toList) : left = right := by
  cases left; cases right; simp_all

private theorem nodup_append_new {items : List α} {item : α} (distinct : items.Nodup)
    (new : item ∉ items) : (items ++ [item]).Nodup := by
  rw [List.nodup_append]
  refine ⟨distinct, by simp, ?_⟩
  intro a member b last same
  simp only [List.mem_singleton] at last
  exact new (last ▸ same ▸ member)

variable [DecidableEq α]

/-- A new member comes last; one that is present already stays where it is. -/
def insert (set : OrderedSet α) (item : α) : OrderedSet α :=
  if present : item ∈ set.toList then set
  else ⟨set.toList ++ [item], nodup_append_new set.nodup present⟩

def insertAll (set : OrderedSet α) (items : List α) : OrderedSet α :=
  items.foldl insert set

def ofList (items : List α) : OrderedSet α := empty.insertAll items

theorem toList_insert (set : OrderedSet α) (item : α) :
    (set.insert item).toList = if item ∈ set.toList then set.toList else set.toList ++ [item] := by
  unfold insert
  split <;> rfl

@[simp] theorem insertAll_nil (set : OrderedSet α) : set.insertAll [] = set := rfl

@[simp] theorem insertAll_cons (set : OrderedSet α) (item : α) (items : List α) :
    set.insertAll (item :: items) = (set.insert item).insertAll items := rfl

theorem insertAll_append (set : OrderedSet α) (first second : List α) :
    set.insertAll (first ++ second) = (set.insertAll first).insertAll second :=
  List.foldl_append

end OrderedSet

end LogSieve
