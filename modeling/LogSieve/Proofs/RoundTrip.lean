import LogSieve.Proofs.Printing

/-! What is left of a filter that is written and read back. Methods and statuses return as they were,
a text constraint returns in regular form with the literals that can be written, and a time range
returns whole or not at all. -/

namespace LogSieve.Filter
open Text Grammar

/-- The regular form of the literals that can be written. -/
def Predicate.expressible? (predicate : Option Predicate) : Option Predicate :=
  ofValues? ((predicate.elim [] values).filter fun literal => Writable literal.toList)

def TimeRange.expressible (range : TimeRange) : TimeRange :=
  if range.operand?.bind (fun operand => ofOperand? operand.toList) = some range then range else {}

def expressiblePart (filter : Filter) : Filter :=
  { crawler := Predicate.expressible? filter.crawler
    path := Predicate.expressible? filter.path
    method := filter.method
    status := filter.status
    time := filter.time.expressible }

theorem Predicate.ofValues?_expressible (predicate : Option Predicate) :
    ofValues? (Filter.expressible predicate) = expressible? predicate := by
  refine congrArg ofValues? (List.filter_congr fun literal _ => ?_)
  rw [Bool.eq_iff_iff, isExpressible_iff, decide_eq_true_iff]

theorem TimeRange.override_faithfulOperand? (range : TimeRange) :
    ({} : TimeRange).override ((range.faithfulOperand?.toList.head?.bind fun operand =>
      ofOperand? operand.toList).getD {}) = range.expressible := by
  rw [Option.head?_toList, faithfulOperand?, expressible]
  cases range.operand? with
  | none => rfl
  | some operand =>
    by_cases faithful : ofOperand? operand.toList = some range
    · simp [Option.filter, faithful, override]
    · simp [Option.filter, faithful, override]

namespace Grammar

theorem statuses_toString (status : UInt16) :
    statuses (toString status.toNat).toList = [status] := by
  have digits : ∀ c ∈ Nat.toDigits 10 status.toNat, isAsciiDigit c = true :=
    fun c => isAsciiDigit_of_mem_toDigits
  have run : runs isDigit (Nat.toDigits 10 status.toNat) = [Nat.toDigits 10 status.toNat] :=
    runs_eq_singleton Nat.toDigits_ne_nil fun c member => by simp [isDigit, digits c member]
  have small : status.toNat ≤ 65535 := Nat.le_of_lt_succ status.toNat_lt
  have kept : ((Nat.toDigits 10 status.toNat).all isAsciiDigit &&
      decide (Nat.ofDigitChars 10 (Nat.toDigits 10 status.toNat) 0 ≤ 65535)) = true := by
    rw [Nat.ofDigitChars_ten_toDigits, Bool.and_eq_true, List.all_eq_true, decide_eq_true_iff]
    exact ⟨digits, small⟩
  rw [statuses, toList_toString, run, List.filter_singleton, kept]
  simp [Nat.ofDigitChars_ten_toDigits]

theorem methods_known {method : String} (known : method ∈ knownMethods) :
    methods method.toList = [method] := by
  revert method
  decide

def put (filter : Filter) (field : Field) (values : List String) : Filter :=
  match field with
  | .crawler => { filter with crawler := (Predicate.ofValues? values).or filter.crawler }
  | .path => { filter with path := (Predicate.ofValues? values).or filter.path }
  | .method =>
    { filter with method := filter.method.insertAll (values.flatMap fun value => methods value.toList) }
  | .status =>
    { filter with status := filter.status.insertAll (values.flatMap fun value => statuses value.toList) }
  | .date =>
    let found := values.head?.bind fun value => TimeRange.ofOperand? value.toList
    { filter with time := filter.time.override (found.getD {}) }

theorem apply_plainClause? (filter : Filter) (field : Field) (values : List Value) :
    (plainClause? field values).elim filter (Clause.apply filter) =
      put filter field (values.map Value.literal) := by
  cases values with
  | nil => cases field <;> simp [plainClause?, put, Predicate.ofValues?_eq_none_iff.mpr, TimeRange.override]
  | cons first more =>
    have present : Predicate.ofValues? ((first :: more).map Value.literal) ≠ none := by
      simp [Predicate.ofValues?_eq_none_iff]
    obtain ⟨predicate, found⟩ := Option.ne_none_iff_exists'.mp present
    have texts : (⟨field, spaced capitalOr (plainTerm field first) (more.map (plainTerm field))⟩ :
        Clause).values = (first :: more).map Value.text := by
      simp [Clause.values, plainTerm, Function.comp_def]
    have literals : ((first :: more).map Value.text).map String.ofList =
        (first :: more).map Value.literal := List.map_map
    simp only [plainClause?, Option.elim_some, Clause.apply, texts, literals]
    cases field with
    | crawler | path => simp only [found, Option.some_or, put]
    | method | status => simp only [put, List.flatMap_map, Value.literal, String.toList_ofList]
    | date =>
      simp only [put, spaced, plainTerm, List.map_cons, List.head?_cons, Option.bind_some, Value.literal,
        String.toList_ofList]
      cases TimeRange.ofOperand? first.text with
      | none => simp [TimeRange.override]
      | some range => rfl

def joined : List Clause → String
  | [] => ""
  | first :: more => Query.text (spaced capitalAnd first more)

theorem intercalate_clauses (clauses : List Clause) :
    " AND ".intercalate (clauses.map fun clause => String.ofList clause.text) = joined clauses := by
  cases clauses with
  | nil => rfl
  | cons first more =>
    refine String.toList_inj.mp ?_
    rw [String.toList_intercalate, joined, Query.text, String.toList_ofList, text_spaced]
    simp [capitalAnd, Function.comp_def]

theorem ofText_joined (clauses : List Clause) :
    ofText (joined clauses) = clauses.foldl Clause.apply {} := by
  cases clauses with
  | nil => rfl
  | cons first more =>
    rw [joined, ofText, foldl_applyClause_query, items_spaced]

end Grammar

/-- Reading a written filter puts the written values of each field into the empty filter. -/
theorem ofText_toText_eq_foldl {filter : Filter}
    (known : ∀ method ∈ filter.method.toList, method ∈ knownMethods) :
    ofText filter.toText =
      Field.all.foldl (fun read field => put read field (filter.written field)) {} := by
  have values (field : Field) := exists_values (writable_of_written known field)
  choose values same using values
  have text : filter.toText =
      joined (Field.all.filterMap fun field => plainClause? field (values field)) := by
    rw [toText, ← intercalate_clauses, List.map_filterMap]
    simp only [clauseText?_eq (same _)]
  rw [text, ofText_joined, List.foldl_filterMap]
  congr 1
  funext read field
  rw [same, ← apply_plainClause?]
  cases plainClause? field (values field) <;> rfl

theorem ofText_toText_eq {filter : Filter}
    (known : ∀ method ∈ filter.method.toList, method ∈ knownMethods) :
    ofText filter.toText = filter.expressiblePart := by
  have names : filter.method.toList.flatMap (fun method => methods method.toList) =
      filter.method.toList := by
    rw [List.flatMap_congr fun method member => methods_known (known method member)]
    exact List.flatMap_singleton' _
  have numbers : (filter.status.toList.map fun status => toString status.toNat).flatMap
      (fun digits => statuses digits.toList) = filter.status.toList := by
    rw [List.flatMap_map, List.flatMap_congr fun status _ => statuses_toString status]
    exact List.flatMap_singleton' _
  rw [ofText_toText_eq_foldl known]
  simp only [Field.all, List.foldl_cons, List.foldl_nil, put, written, names, numbers,
    Predicate.ofValues?_expressible, TimeRange.override_faithfulOperand?, Option.or_none,
    OrderedSet.empty_insertAll_toList]
  rfl

end LogSieve.Filter
