import LogSieve.Proofs.RoundTrip
import LogSieve.Proofs.YearSplits

/-! A range that an operand has named can be written down again, and what is written names the same
range. So the bounds that a text sets in one clause outlast writing and reading, whatever the operand
looked like. -/

namespace LogSieve.Filter

namespace TimeRange

theorem spelled_of_ofOperand? {operand : List Char} {range : TimeRange}
    (named : ofOperand? operand = some range) : ∀ bound ∈ range.bounds, Spelled bound.toList := by
  intro bound member
  refine ⟨tight_of_ofOperand? named bound member, ?_⟩
  exact forall_bounds.mpr (within_of_ofOperand? named) bound member

/-- The ranges that operands name: one bound alone, or two that part again when they are joined by a
colon. -/
inductive Nameable : TimeRange → Prop where
  | start {start : String} (spelled : Spelled start.toList)
      (whole : splitAtYear? start.toList = none) : Nameable { start := some start }
  | stop {stop : String} (spelled : Spelled stop.toList) : Nameable { stop := some stop }
  | both {start stop : String} (first : Spelled start.toList) (last : Spelled stop.toList)
      (parted : splitAtYear? (start.toList ++ ':' :: stop.toList) = some (start.toList, stop.toList)) :
      Nameable { start := some start, stop := some stop }

theorem nameable_of_ofOperand? {operand : List Char} {range : TimeRange}
    (named : ofOperand? operand = some range) : Nameable range := by
  have spelled := spelled_of_ofOperand? named
  unfold ofOperand? at named
  split at named
  next => cases named
  next rest _ =>
    cases named
    exact .stop (spelled _ List.mem_cons_self)
  next =>
    split at named
    next before after parted =>
      cases named
      refine .both (spelled _ List.mem_cons_self) (spelled _ (List.mem_cons_of_mem _ List.mem_cons_self)) ?_
      simpa only [String.toList_ofList] using splitAtYear?_dropEndColons parted
    next whole =>
      cases named
      refine .start (spelled _ List.mem_cons_self) ?_
      rwa [String.toList_ofList]

/-- The operand of a nameable range names it. -/
theorem Nameable.ofOperand?_operand? {range : TimeRange} (nameable : Nameable range) :
    ∃ written, range.operand? = some written ∧ ofOperand? written.toList = some range := by
  cases nameable with
  | @start start spelled whole =>
    have read := ofOperand?_start spelled whole 0
    rw [List.replicate_zero, List.append_nil, String.ofList_toList] at read
    exact ⟨start, rfl, read⟩
  | @stop stop spelled =>
    have read := ofOperand?_stop spelled 0
    rw [String.ofList_toList] at read
    refine ⟨":" ++ stop, rfl, ?_⟩
    rwa [String.toList_append]
  | @both start stop first last parted =>
    have read := ofOperand?_both first last 0 (by simpa using parted)
    rw [String.ofList_toList, String.ofList_toList] at read
    refine ⟨start ++ ":" ++ stop, rfl, ?_⟩
    rwa [String.toList_append, String.toList_append]

theorem Nameable.faithfulOperand? {range : TimeRange} (nameable : Nameable range) :
    ∃ written, range.faithfulOperand? = some written ∧ ofOperand? written.toList = some range := by
  obtain ⟨written, spelled, read⟩ := nameable.ofOperand?_operand?
  refine ⟨written, Option.filter_eq_some_iff.mpr ⟨spelled, ?_⟩, read⟩
  rw [read, decide_eq_true_iff]

theorem Nameable.expressible {range : TimeRange} (nameable : Nameable range) :
    range.expressible = range := by
  obtain ⟨written, spelled, read⟩ := nameable.ofOperand?_operand?
  rw [TimeRange.expressible, spelled, Option.bind_some, if_pos read]

end TimeRange

def setTime (range : TimeRange) (clause : List Word) : TimeRange :=
  range.override ((clauseTime? clause).getD {})

def isTimeClause (clause : List Word) : Bool := clauseField? clause == some .date

def timeClauses (text : String) : List (List Word) := (clauses text.toList).filter isTimeClause

theorem time_applyClause (filter : Filter) (clause : List Word) : (applyClause filter clause).time =
    if isTimeClause clause then setTime filter.time clause else filter.time := by
  unfold applyClause isTimeClause
  cases clauseField? clause with
  | none => rfl
  | some field => cases field <;> rfl

theorem time_foldl_applyClause (clauses : List (List Word)) (filter : Filter) :
    (clauses.foldl applyClause filter).time =
      (clauses.filter isTimeClause).foldl setTime filter.time := by
  induction clauses generalizing filter with
  | nil => rfl
  | cons clause clauses ih =>
    rw [List.foldl_cons, ih, time_applyClause, List.filter_cons]
    split <;> rfl

theorem time_ofText_eq {text : String} {clause : List Word} (single : timeClauses text = [clause]) :
    (ofText text).time = (clauseTime? clause).getD {} := by
  have folded := time_foldl_applyClause (clauses text.toList) {}
  rw [← timeClauses, single] at folded
  exact folded.trans (TimeRange.empty_override _)

theorem time_ofText_toText {filter : Filter}
    (known : ∀ method ∈ filter.method.toList, method ∈ knownMethods) :
    (ofText filter.toText).time = filter.time.expressible := by
  rw [ofText_toText_eq_foldl known, ← TimeRange.override_faithfulOperand?]
  rfl

/-- Whatever an operand names is written as one clause whose operand names it again. A text that is
about time in one clause only therefore keeps its bounds when it is read, written and read once more. -/
theorem time_survives {operand : List Char} {range : TimeRange}
    (named : TimeRange.ofOperand? operand = some range) :
    (∃ written : String, TimeRange.ofOperand? written.toList = some range ∧
      ∀ filter : Filter, filter.time = range →
        filter.clauseText? .date = some ("date = " ++ written)) ∧
    (∀ filter : Filter, filter.time = range →
      (∀ method ∈ filter.method.toList, method ∈ knownMethods) →
      (ofText filter.toText).time = range) ∧
    ∀ text clause, timeClauses text = [clause] →
      (alternatives clause).head?.bind operand? = some operand →
      (ofText text).time = range ∧ (ofText (ofText text).toText).time = range := by
  have nameable := TimeRange.nameable_of_ofOperand? named
  have kept (filter : Filter) (same : filter.time = range)
      (known : ∀ method ∈ filter.method.toList, method ∈ knownMethods) :
      (ofText filter.toText).time = range := by
    rw [time_ofText_toText known, same, nameable.expressible]
  refine ⟨?_, kept, ?_⟩
  · obtain ⟨written, faithful, read⟩ := nameable.faithfulOperand?
    refine ⟨written, read, ?_⟩
    rintro filter rfl
    rw [clauseText?, terms, faithful]
    rfl
  · intro text clause single first
    have read : (ofText text).time = range := by
      rw [time_ofText_eq single, clauseTime?, first, Option.bind_some, named, Option.getD_some]
    exact ⟨read, kept _ read (sayable_ofText text).method⟩

/-- Doubled colons, a colon at the end and what follows the operand are lost at once, and nothing is lost
from then on. -/
theorem time_survives_doubled :
    (TimeRange.ofOperand? "2024-01-01T10:00::2024-01-02:,".toList =
        some ⟨some "2024-01-01T10:00", some "2024-01-02"⟩ ∧
      timeClauses "method = get and date=2024-01-01T10:00::2024-01-02:, or 2025 and status = 404" =
        [["date=2024-01-01T10:00::2024-01-02:,".toList, "or".toList, "2025".toList]]) ∧
    (ofText (ofText
      "method = get and date=2024-01-01T10:00::2024-01-02:, or 2025 and status = 404").toText).time =
        ⟨some "2024-01-01T10:00", some "2024-01-02"⟩ := by
  have named : TimeRange.ofOperand? "2024-01-01T10:00::2024-01-02:,".toList =
      some ⟨some "2024-01-01T10:00", some "2024-01-02"⟩ := by decide +kernel
  have single :
      timeClauses "method = get and date=2024-01-01T10:00::2024-01-02:, or 2025 and status = 404" =
        [["date=2024-01-01T10:00::2024-01-02:,".toList, "or".toList, "2025".toList]] := by
    decide +kernel
  exact ⟨⟨named, single⟩, ((time_survives named).2.2 _ _ single (by decide +kernel)).2⟩

end LogSieve.Filter
