import Mathlib.Data.List.Nodup
import LogSieve.Filter.Chip
import LogSieve.Proofs.OrderedSets

/-! Chips against the filter that they summarize. Each field that constrains has one chip, under a key of
its own. To take a chip off clears its field and leaves the other chips as they are, so that a filter is
empty once its chips are gone, in whatever order they went. -/

namespace LogSieve.Filter

theorem Field.key_injective : Function.Injective Field.key := by
  intro left right same
  have found := Field.ofKey?_key left
  rw [same, Field.ofKey?_key] at found
  exact (Option.some.inj found).symm

theorem Field.mem_all (field : Field) : field ∈ Field.all := by
  cases field <;> decide

theorem label?_without (filter : Filter) (field other : Field) :
    (filter.without field).label? other = if other = field then none else filter.label? other := by
  cases field <;> cases other <;> rfl

theorem chip?_without (filter : Filter) (field other : Field) :
    (filter.without field).chip? other = if other = field then none else filter.chip? other := by
  rw [chip?, label?_without]
  split <;> rfl

theorem isEmpty_iff {filter : Filter} : filter.isEmpty = true ↔ filter = {} := by
  constructor
  · intro empty
    obtain ⟨crawler, path, method, status, start, stop⟩ := filter
    simp only [isEmpty, TimeRange.isEmpty, Bool.and_eq_true, Option.isNone_iff_eq_none,
      OrderedSet.isEmpty_iff] at empty
    obtain ⟨⟨⟨⟨rfl, rfl⟩, rfl⟩, rfl⟩, rfl, rfl⟩ := empty
    rfl
  · rintro rfl
    rfl

theorem isEmpty_iff_forall_label? {filter : Filter} :
    filter.isEmpty = true ↔ ∀ field, filter.label? field = none := by
  constructor
  · intro empty field
    rw [isEmpty_iff.mp empty]
    cases field <;> rfl
  · intro unlabelled
    have crawler : filter.crawler = none := Option.map_eq_none_iff.mp (unlabelled .crawler)
    have path : filter.path = none := Option.map_eq_none_iff.mp (unlabelled .path)
    have method : filter.method.isEmpty = true := by simpa [label?] using unlabelled .method
    have status : filter.status.isEmpty = true := by simpa [label?] using unlabelled .status
    have time : filter.time.isEmpty = true := by
      have unbounded := unlabelled .date
      cases start : filter.time.start <;> cases stop : filter.time.stop <;>
        simp_all [label?, TimeRange.isEmpty]
    simp only [isEmpty, crawler, path, method, status, time, Option.isNone_none, Bool.and_true]

theorem chips_eq_nil_iff {filter : Filter} : filter.chips = [] ↔ filter.isEmpty = true := by
  rw [chips, List.filterMap_eq_nil_iff, isEmpty_iff_forall_label?]
  constructor
  · intro hidden field
    exact Option.map_eq_none_iff.mp (hidden field field.mem_all)
  · intro unlabelled field _
    exact Option.map_eq_none_iff.mpr (unlabelled field)

theorem key_of_chip? {filter : Filter} {field : Field} {chip : Chip}
    (shown : filter.chip? field = some chip) : chip.key = field.key := by
  obtain ⟨label, -, rfl⟩ := Option.map_eq_some_iff.mp shown
  rfl

theorem exists_key_of_mem_chips {filter : Filter} {chip : Chip} (shown : chip ∈ filter.chips) :
    ∃ field : Field, chip.key = field.key := by
  obtain ⟨field, -, made⟩ := List.mem_filterMap.mp shown
  exact ⟨field, key_of_chip? made⟩

theorem map_key_filterMap_chip? (filter : Filter) (fields : List Field) :
    (fields.filterMap filter.chip?).map Chip.key =
      (fields.filter fun field => (filter.label? field).isSome).map Field.key := by
  induction fields with
  | nil => rfl
  | cons field fields ih =>
    cases labelled : filter.label? field with
    | none => simpa [chip?, labelled] using ih
    | some label => simpa [chip?, labelled] using ih

theorem map_key_chips_sublist (filter : Filter) :
    (filter.chips.map Chip.key).Sublist (Field.all.map Field.key) := by
  rw [chips, map_key_filterMap_chip?]
  exact List.filter_sublist.map Field.key

theorem nodup_map_key_chips (filter : Filter) : (filter.chips.map Chip.key).Nodup :=
  (map_key_chips_sublist filter).nodup (by decide)

section
variable (filter : Filter)

theorem chips_without (field : Field) :
    (filter.without field).chips = filter.chips.filter (·.key ≠ field.key) := by
  rw [chips, chips, List.filter_filterMap]
  apply List.filterMap_congr
  intro other _
  rw [chip?_without]
  cases made : filter.chip? other with
  | none => simp
  | some chip =>
    have named : chip.key = field.key ↔ other = field := by
      rw [key_of_chip? made, Field.key_injective.eq_iff]
    by_cases same : other = field
    · rw [if_pos same, Option.filter_some_neg (by simp [named.mpr same])]
    · rw [if_neg same, Option.filter_some_pos (by simp [named.not.mpr same])]

theorem removeChip_of_known {chip : Chip} {field : Field} (known : chip.key = field.key) :
    filter.removeChip chip = filter.without field := by
  rw [removeChip, known, Field.ofKey?_key]

theorem removeChip_of_unknown {chip : Chip} (unknown : chip.key ∉ Field.all.map Field.key) :
    filter.removeChip chip = filter := by
  have none : Field.ofKey? chip.key = none := by
    apply List.find?_eq_none.mpr
    intro field member
    simpa using fun same => unknown (List.mem_map.mpr ⟨field, member, same⟩)
  rw [removeChip, none]

/-- Taking off a chip, of this filter or not, takes away what has its key. -/
theorem chips_removeChip (chip : Chip) :
    (filter.removeChip chip).chips = filter.chips.filter (·.key ≠ chip.key) := by
  by_cases known : chip.key ∈ Field.all.map Field.key
  · obtain ⟨field, -, same⟩ := List.mem_map.mp known
    rw [removeChip_of_known filter same.symm, chips_without, same]
  · rw [removeChip_of_unknown filter known, List.filter_eq_self.mpr]
    intro other shown
    obtain ⟨field, named⟩ := exists_key_of_mem_chips shown
    have apart : other.key ≠ chip.key := by
      intro same
      exact known (List.mem_map.mpr ⟨field, field.mem_all, named.symm.trans same⟩)
    simpa using apart

theorem chips_foldl_removeChip (removed : List Chip) :
    (removed.foldl removeChip filter).chips = filter.chips.filter (·.key ∉ removed.map Chip.key) := by
  induction removed generalizing filter with
  | nil => simp
  | cons chip removed ih =>
    rw [List.foldl_cons, ih, chips_removeChip, List.filter_filter]
    apply List.filter_congr
    intro other _
    simp [List.mem_cons, not_or, Bool.and_comm]

theorem chips_removeChip_eq_erase {chip : Chip} (shown : chip ∈ filter.chips) :
    (filter.removeChip chip).chips = filter.chips.erase chip := by
  have distinct := nodup_map_key_chips filter
  rw [chips_removeChip, (List.Nodup.of_map Chip.key distinct).erase_eq_filter]
  apply List.filter_congr
  intro other member
  have single : other.key = chip.key ↔ other = chip := by
    refine ⟨fun same => List.inj_on_of_nodup_map distinct member shown same, fun same => ?_⟩
    rw [same]
  rw [Bool.eq_iff_iff]
  simp [single]

/-- The order in which chips go does not matter, nor do chips that are gone already. -/
theorem foldl_removeChip_eq_empty {removed : List Chip} (every : filter.chips ⊆ removed) :
    removed.foldl removeChip filter = {} := by
  apply isEmpty_iff.mp
  apply chips_eq_nil_iff.mp
  rw [chips_foldl_removeChip, List.filter_eq_nil_iff]
  intro chip shown
  have gone : chip.key ∈ removed.map Chip.key := List.mem_map_of_mem (every shown)
  simpa using gone

/-- Chips tell what a filter asks for, no more and no less: there is none exactly if the filter is empty,
each has a key of its own, and each can be taken off by itself until nothing is left. A chip with any other
key takes nothing off. -/
theorem chips_describe :
    (filter.chips = [] ↔ filter.isEmpty = true) ∧
    (filter.chips.map Chip.key).Nodup ∧
    (filter.chips.map Chip.key).Sublist ["crawler", "path", "method", "status", "dateRange"] ∧
    (∀ chip ∈ filter.chips, (filter.removeChip chip).chips = filter.chips.erase chip) ∧
    (∀ order : List Chip, order.Perm filter.chips → order.foldl removeChip filter = {}) ∧
    ∀ chip : Chip, chip.key ∉ ["crawler", "path", "method", "status", "dateRange"] →
      filter.removeChip chip = filter := by
  refine ⟨chips_eq_nil_iff, nodup_map_key_chips filter, map_key_chips_sublist filter, ?_, ?_, ?_⟩
  · intro chip shown
    exact chips_removeChip_eq_erase filter shown
  · intro order perm
    exact foldl_removeChip_eq_empty filter perm.symm.subset
  · intro chip unknown
    exact removeChip_of_unknown filter unknown

end

/-- Empty texts and a predicate without values constrain as well, and so have chips. The keyword of the time
range is not its key. -/
theorem chips_describe_hollow :
    (⟨"Date: from ", "dateRange"⟩ ∈ chips { crawler := some (.anyOf []), time := { start := some "" } } ∧
      chips (removeChip { crawler := some (.anyOf []), time := { start := some "" } }
        ⟨"Date: from ", "dateRange"⟩) =
        (chips { crawler := some (.anyOf []), time := { start := some "" } }).erase
          ⟨"Date: from ", "dateRange"⟩) ∧
    ([⟨"Date: from ", "dateRange"⟩, ⟨"Crawler: ", "crawler"⟩].Perm
        (chips { crawler := some (.anyOf []), time := { start := some "" } }) ∧
      [⟨"Date: from ", "dateRange"⟩, ⟨"Crawler: ", "crawler"⟩].foldl removeChip
        { crawler := some (.anyOf []), time := { start := some "" } } = {}) ∧
    "date" ∉ ["crawler", "path", "method", "status", "dateRange"] ∧
    removeChip { crawler := some (.anyOf []), time := { start := some "" } } ⟨"", "date"⟩ =
      { crawler := some (.anyOf []), time := { start := some "" } } := by
  obtain ⟨-, -, -, single, order, unknown⟩ :=
    chips_describe { crawler := some (.anyOf []), time := { start := some "" } }
  have shown : ⟨"Date: from ", "dateRange"⟩ ∈
      chips { crawler := some (.anyOf []), time := { start := some "" } } := by decide
  have perm : [⟨"Date: from ", "dateRange"⟩, ⟨"Crawler: ", "crawler"⟩].Perm
      (chips { crawler := some (.anyOf []), time := { start := some "" } }) := by decide
  have other : "date" ∉ ["crawler", "path", "method", "status", "dateRange"] := by decide
  exact ⟨⟨shown, single _ shown⟩, ⟨perm, order _ perm⟩, other, unknown ⟨"", "date"⟩ other⟩

end LogSieve.Filter
