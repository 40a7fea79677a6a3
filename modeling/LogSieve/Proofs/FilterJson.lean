import LogSieve.Filter.Json
import LogSieve.Proofs.JsonRecords
import LogSieve.Proofs.RegularFilters

/-! Filters written as JSON and read again. Methods, statuses and time bounds come back as they were.
Predicates come back as their values make them, so that only the regular ones stay the same; since
nothing else is ever read, one round is enough to reach a filter that further rounds leave alone. -/

namespace LogSieve.Filter

namespace Predicate

/-- What a predicate is after it was written and read, if it can be read. -/
def reread : Option Predicate → Except DecodeError (Option Predicate)
  | none => pure none
  | some predicate =>
    match ofValues? predicate.values with
    | none => throw .emptyPredicate
    | some regular => pure (some regular)

theorem ofJson_toJson (predicate : Predicate) :
    Json.optional ofJson predicate.toJson = reread (some predicate) := by
  cases predicate with
  | single value => rfl
  | anyOf values =>
    have listed := Json.strings?_array values
    simp only [Json.optional, toJson, ofJson, listed, reread, Predicate.values]
    cases ofValues? values <;> rfl

theorem reread_eq_iff {predicate : Option Predicate} :
    reread predicate = .ok predicate ↔ ∀ present ∈ predicate, present.Regular := by
  cases predicate with
  | none => simp [reread, pure, Except.pure]
  | some predicate =>
    simp only [Option.mem_def, Option.some.injEq, forall_eq', regular_iff, reread]
    cases ofValues? predicate.values with
    | none => simp [throw, throwThe, MonadExceptOf.throw]
    | some regular => simp [pure, Except.pure]

theorem regular_of_ofJson {json : Json} {predicate : Predicate} (read : ofJson json = .ok predicate) :
    predicate.Regular := by
  unfold ofJson at read
  split at read
  next =>
    cases read
    trivial
  next =>
    split at read
    next => cases read
    next values _ =>
      split at read
      next => cases read
      next made =>
        cases read
        exact regular_of_ofValues? made

theorem regular_of_optional {json : Json} {predicate : Option Predicate}
    (read : Json.optional ofJson json = .ok predicate) : ∀ present ∈ predicate, present.Regular := by
  unfold Json.optional at read
  split at read
  next =>
    cases read
    intro present impossible
    cases impossible
  next =>
    intro present found
    cases found
    cases outcome : ofJson json with
    | error failure =>
      rw [outcome] at read
      cases read
    | ok value =>
      rw [outcome] at read
      cases read
      exact regular_of_ofJson outcome

end Predicate

theorem TimeRange.ofJson_toJson (range : TimeRange) : ofJson range.toJson = .ok range := by
  obtain ⟨start, stop⟩ := range
  cases start <;> cases stop <;> rfl

theorem uint16?_integer (code : UInt16) : (Json.integer code.toNat).uint16? = some code := by
  have low : (0 : Int) ≤ code.toNat := Int.natCast_nonneg _
  have high : (code.toNat : Int) ≤ 0xffff := by
    have below := code.toNat_lt
    omega
  rw [Json.uint16?, Json.integerWithin?, if_pos ⟨low, high⟩]
  simp

section
variable {crawler path : Option Predicate} {method : OrderedSet String} {status : OrderedSet UInt16}
  {time : TimeRange}

theorem setFields_crawler (written : Option Predicate) :
    Json.setFields setField { path, method, status, time }
        (written.map fun predicate => ("crawler", predicate.toJson)).toList = (do
      let crawler ← Predicate.reread written
      return { crawler, path, method, status, time }) := by
  cases written with
  | none => rfl
  | some predicate =>
    refine (Json.setFields_singleton _ _ _ _).trans ?_
    rw [← Predicate.ofJson_toJson]
    rfl

theorem setFields_path (written : Option Predicate) :
    Json.setFields setField { crawler, method, status, time }
        (written.map fun predicate => ("path", predicate.toJson)).toList = (do
      let path ← Predicate.reread written
      return { crawler, path, method, status, time }) := by
  cases written with
  | none => rfl
  | some predicate =>
    refine (Json.setFields_singleton _ _ _ _).trans ?_
    rw [← Predicate.ofJson_toJson]
    rfl

theorem setFields_method (written : OrderedSet String) :
    Json.setFields setField { crawler, path, status, time }
        (if written.isEmpty then [] else [("method", .array (written.toList.map .string))]) =
      pure { crawler, path, method := written, status, time } := by
  split
  next empty =>
    have none : written = ∅ := OrderedSet.ext (List.isEmpty_iff.mp empty)
    rw [none]
    rfl
  next =>
    have again : OrderedSet.ofList written.toList = written := OrderedSet.empty_insertAll_toList written
    rw [Json.setFields_singleton]
    simp only [setField, Json.expect, Json.strings?_array, pure_bind, again]

theorem setFields_status (written : OrderedSet UInt16) :
    Json.setFields setField { crawler, path, method, time }
        (if written.isEmpty then []
          else [("status", .array (written.toList.map fun code => .integer code.toNat))]) =
      pure { crawler, path, method, status := written, time } := by
  split
  next empty =>
    have none : written = ∅ := OrderedSet.ext (List.isEmpty_iff.mp empty)
    rw [none]
    rfl
  next =>
    have again : OrderedSet.ofList written.toList = written := OrderedSet.empty_insertAll_toList written
    have each : Json.uint16? ∘ (fun code : UInt16 => Json.integer code.toNat) = some :=
      funext uint16?_integer
    have codes : (written.toList.map fun code => Json.integer code.toNat).mapM Json.uint16? =
        some written.toList := by
      rw [List.mapM_map, each]
      exact List.mapM_pure.trans (congrArg some (List.map_id _))
    rw [Json.setFields_singleton]
    simp only [setField, Json.expect, Json.array?, Option.bind_some, codes, pure_bind, again]

theorem setFields_time (written : TimeRange) :
    Json.setFields setField { crawler, path, method, status }
        (if written.isEmpty then [] else [("dateRange", written.toJson)]) =
      pure { crawler, path, method, status, time := written } := by
  split
  next empty =>
    obtain ⟨start, stop⟩ := written
    simp only [TimeRange.isEmpty, Bool.and_eq_true, Option.isNone_iff_eq_none] at empty
    obtain ⟨rfl, rfl⟩ := empty
    rfl
  next =>
    rw [Json.setFields_singleton]
    simp only [setField, TimeRange.ofJson_toJson]
    rfl

end

/-- Only predicates are changed by being written and read, or keep a filter from being read. -/
theorem ofJson_toJson_eq (filter : Filter) : ofJson filter.toJson = (do
    let crawler ← Predicate.reread filter.crawler
    let path ← Predicate.reread filter.path
    return { filter with crawler, path }) := by
  unfold ofJson toJson Json.record
  simp only [Json.setFields_append, setFields_crawler, setFields_path, setFields_method,
    setFields_status, setFields_time, bind_assoc, pure_bind]

theorem ofJson_toJson_eq_ok_iff {filter : Filter} :
    ofJson filter.toJson = .ok filter ↔ filter.Regular := by
  rw [ofJson_toJson_eq, Json.bind_eq_ok_iff]
  constructor
  · rintro ⟨crawler, first, rest⟩
    obtain ⟨path, second, same⟩ := Json.bind_eq_ok_iff.mp rest
    have kept := Except.ok.inj same
    have agents : crawler = filter.crawler := congrArg Filter.crawler kept
    have targets : path = filter.path := congrArg Filter.path kept
    rw [agents] at first
    rw [targets] at second
    exact ⟨Predicate.reread_eq_iff.mp first, Predicate.reread_eq_iff.mp second⟩
  · intro regular
    refine ⟨filter.crawler, Predicate.reread_eq_iff.mpr regular.crawler, ?_⟩
    refine Json.bind_eq_ok_iff.mpr ⟨filter.path, Predicate.reread_eq_iff.mpr regular.path, rfl⟩

theorem Regular.setField {filter next : Filter} {key : String} {value : Json} (regular : filter.Regular)
    (set : setField filter key value = .ok next) : next.Regular := by
  unfold Filter.setField at set
  split at set
  next =>
    obtain ⟨crawler, read, same⟩ := Json.bind_eq_ok_iff.mp set
    cases same
    exact ⟨Predicate.regular_of_optional read, regular.path⟩
  next =>
    obtain ⟨path, read, same⟩ := Json.bind_eq_ok_iff.mp set
    cases same
    exact ⟨regular.crawler, Predicate.regular_of_optional read⟩
  case h_3 | h_4 | h_5 =>
    obtain ⟨value, -, same⟩ := Json.bind_eq_ok_iff.mp set
    cases same
    exact ⟨regular.crawler, regular.path⟩
  next =>
    cases set
    exact regular

theorem regular_of_ofJson {json : Json} {filter : Filter} (read : ofJson json = .ok filter) :
    filter.Regular :=
  Json.record_preserves (fun _ _ _ _ kept set => kept.setField set) regular_empty read

/-- A filter survives being written as JSON exactly if it is regular, and whatever JSON a filter was read
from, it is written so that it reads back as the same filter. -/
theorem ofJson_toJson_stable (filter : Filter) :
    (ofJson filter.toJson = .ok filter ↔ filter.Regular) ∧
    ∀ json, ofJson json = .ok filter → ofJson filter.toJson = .ok filter :=
  ⟨ofJson_toJson_eq_ok_iff, fun _ read => ofJson_toJson_eq_ok_iff.mpr (regular_of_ofJson read)⟩

/-- Repeated values, a range as an array and a field of no meaning are gone after the first reading. -/
theorem ofJson_toJson_stable_repeated :
    ofJson (.object [("crawler", .null), ("path", .array [.string "/a", .string "/b", .string "/a"]),
        ("status", .array [.integer 404, .integer 404]), ("dateRange", .array [.null, .string "2024"]),
        ("page", .bool true)]) =
      .ok ⟨none, some (.anyOf ["/a", "/b"]), ∅, .ofList [404], ⟨none, some "2024"⟩⟩ ∧
    ofJson (toJson ⟨none, some (.anyOf ["/a", "/b"]), ∅, .ofList [404], ⟨none, some "2024"⟩⟩) =
      .ok ⟨none, some (.anyOf ["/a", "/b"]), ∅, .ofList [404], ⟨none, some "2024"⟩⟩ := by
  have read : ofJson (.object [("crawler", .null),
      ("path", .array [.string "/a", .string "/b", .string "/a"]),
      ("status", .array [.integer 404, .integer 404]), ("dateRange", .array [.null, .string "2024"]),
      ("page", .bool true)]) =
      .ok ⟨none, some (.anyOf ["/a", "/b"]), ∅, .ofList [404], ⟨none, some "2024"⟩⟩ := rfl
  exact ⟨read, (ofJson_toJson_stable _).2 _ read⟩

end LogSieve.Filter
