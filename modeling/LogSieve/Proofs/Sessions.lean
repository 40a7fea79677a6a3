import LogSieve.Filter.Session
import LogSieve.Proofs.EmptyGroups
import LogSieve.Proofs.FilterJson

/-! What every session keeps. The edits that are on offer carry predicates made of values, and filters
from earlier sessions or from JSON; everything else they take from texts. However many of them follow
each other, the filter stays regular, and its statements have no empty group. -/

namespace LogSieve.Filter

namespace Edit

def run (edits : List Edit) : Filter := edits.foldl apply {}

/-- The edits that a session offers. -/
inductive Offered : Edit → Prop where
  | addMethods (methods : List String) : Offered (.addMethods methods)
  | addStatuses (statuses : List UInt16) : Offered (.addStatuses statuses)
  | setCrawler (values : List String) : Offered (.setCrawler (Predicate.ofValues? values))
  | setPath (values : List String) : Offered (.setPath (Predicate.ofValues? values))
  | setTime (range : TimeRange) : Offered (.setTime range)
  | clear (field : Field) : Offered (.clear field)
  | removeKey (key : String) : Offered (.removeKey key)
  | mergeSession (edits : List Edit) (earlier : ∀ edit ∈ edits, Offered edit) :
      Offered (.merge (run edits))
  | mergeJson (json : Json) (later : Filter) (read : ofJson json = .ok later) : Offered (.merge later)
  | refine (text : String) : Offered (.refine text)
  | replace (text : String) : Offered (.replace text)
  | reread : Offered .reread

def Regular : Edit → Prop
  | setCrawler predicate | setPath predicate => ∀ chosen ∈ predicate, chosen.Regular
  | merge later => later.Regular
  | addMethods _ | addStatuses _ | setTime _ | clear _ | removeKey _ | refine _ | replace _ | reread => True

end Edit

theorem Regular.apply {filter : Filter} {edit : Edit} (regular : filter.Regular)
    (carried : edit.Regular) : (edit.apply filter).Regular := by
  cases edit with
  | addMethods methods => exact ⟨regular.crawler, regular.path⟩
  | addStatuses statuses => exact ⟨regular.crawler, regular.path⟩
  | setCrawler predicate => exact ⟨carried, regular.path⟩
  | setPath predicate => exact ⟨regular.crawler, carried⟩
  | setTime range => exact ⟨regular.crawler, regular.path⟩
  | clear field => exact regular.without field
  | removeKey key => exact regular.removeChip { label := "", key }
  | merge later => exact regular.merge carried
  | refine text => exact regular.merge (regular_ofText text)
  | replace text => exact regular_ofText text
  | reread => exact regular_ofText filter.toText

theorem Regular.foldl_apply {filter : Filter} {edits : List Edit} (regular : filter.Regular)
    (carried : ∀ edit ∈ edits, edit.Regular) : (edits.foldl Edit.apply filter).Regular := by
  apply List.foldlRecOn edits Edit.apply regular
  intro current kept edit member
  exact kept.apply (carried edit member)

namespace Edit

theorem Offered.regular {edit : Edit} (offered : edit.Offered) : edit.Regular := by
  induction offered with
  | setCrawler values | setPath values =>
    intro predicate made
    exact Predicate.regular_of_ofValues? made
  | mergeSession edits earlier ih => exact regular_empty.foldl_apply ih
  | mergeJson json later read => exact regular_of_ofJson read
  | addMethods | addStatuses | setTime | clear | removeKey | refine | replace | reread => trivial

/-- Sessions never repeat a method or a status, have no predicate but regular ones, and compile to
statements without empty groups. -/
theorem run_regular {edits : List Edit} (offered : ∀ edit ∈ edits, edit.Offered) :
    (run edits).method.toList.Nodup ∧ (run edits).status.toList.Nodup ∧ (run edits).Regular ∧
    ∀ compiler scope statement, Sql.Compiler.Emits compiler (run edits) scope statement →
      ¬ Sql.Hollow statement.text := by
  have regular : (run edits).Regular :=
    regular_empty.foldl_apply fun edit member => (offered edit member).regular
  refine ⟨(run edits).method.nodup, (run edits).status.nodup, regular, ?_⟩
  intro compiler scope statement emitted
  apply emitted.not_hollow
  · intro predicate present
    exact (regular.crawler predicate present).values_ne_nil
  · intro predicate present
    exact (regular.path predicate present).values_ne_nil

theorem run_regular_merged :
    (∀ edit ∈ [.setPath (Predicate.ofValues? ["/a", "/b", "/a"]), .addStatuses [404, 404],
        .merge { crawler := some (.single "bot") },
        .merge (run [.addMethods ["GET", "GET"], .removeKey "path"]), .reread], Offered edit) ∧
    (run [.setPath (Predicate.ofValues? ["/a", "/b", "/a"]), .addStatuses [404, 404],
        .merge { crawler := some (.single "bot") },
        .merge (run [.addMethods ["GET", "GET"], .removeKey "path"]), .reread]).Regular := by
  have earlier : ∀ edit ∈ [.addMethods ["GET", "GET"], .removeKey "path"], Offered edit := by
    simp only [List.forall_mem_cons, List.not_mem_nil, false_implies, implies_true, and_true]
    exact ⟨.addMethods _, .removeKey _⟩
  have read : ofJson (.object [("crawler", .array [.string "bot", .string "bot"])]) =
      .ok { crawler := some (.single "bot") } := rfl
  have offered : ∀ edit ∈ [.setPath (Predicate.ofValues? ["/a", "/b", "/a"]), .addStatuses [404, 404],
      .merge { crawler := some (.single "bot") },
      .merge (run [.addMethods ["GET", "GET"], .removeKey "path"]), .reread], Offered edit := by
    simp only [List.forall_mem_cons, List.not_mem_nil, false_implies, implies_true, and_true]
    exact ⟨.setPath _, .addStatuses _, .mergeJson _ _ read, .mergeSession _ earlier, .reread⟩
  exact ⟨offered, (run_regular offered).2.2.1⟩

end Edit

end LogSieve.Filter
