import LogSieve.Json.Record

/-! Reading records from JSON. The fields of an object are set one after the other, so that entries can
be read in portions, and what each field keeps is true of every record that is read at all. -/

namespace LogSieve.Json
variable {α β ε : Type}

theorem bind_eq_ok_iff {first : Except ε α} {next : α → Except ε β} {result : β} :
    first >>= next = .ok result ↔ ∃ value, first = .ok value ∧ next value = .ok result := by
  cases first with
  | error failure => simp [bind, Except.bind]
  | ok value => simp [bind, Except.bind]

theorem strings?_array (values : List String) :
    (array (values.map .string)).strings? = some values := by
  have apart : values.mapM (string? ∘ string) = some values :=
    List.mapM_pure.trans (congrArg some (List.map_id values))
  unfold strings? array?
  rw [Option.bind_some, List.mapM_map, apart]

section
variable (set : α → String → Json → Except ε α) (start : α)

theorem setFields_append (first second : List (String × Json)) :
    setFields set start (first ++ second) =
      setFields set start first >>= fun record => setFields set record second :=
  List.foldlM_append

theorem setFields_singleton (key : String) (value : Json) :
    setFields set start [(key, value)] = set start key value := by
  simp [setFields]

end

section
variable {set : α → String → Json → Except ε α} {start result : α} {property : α → Prop}
  (kept : ∀ record key value next, property record → set record key value = .ok next → property next)
  (initial : property start)
include kept initial

theorem setFields_preserves {entries : List (String × Json)}
    (read : setFields set start entries = .ok result) : property result := by
  induction entries generalizing start with
  | nil =>
    cases read
    exact initial
  | cons entry entries ih =>
    obtain ⟨next, first, rest⟩ := bind_eq_ok_iff.mp read
    exact ih (kept start entry.1 entry.2 next initial first) rest

theorem record_preserves {names : List String} {surplus : Bool} {malformed : ε} {json : Json}
    (read : record names surplus malformed set start json = .ok result) : property result := by
  cases json with
  | object entries => exact setFields_preserves kept initial read
  | array items =>
    obtain ⟨filled, fields, counted⟩ := bind_eq_ok_iff.mp read
    split at counted
    · cases counted
      exact setFields_preserves kept initial fields
    · cases counted
  | null | bool _ | integer _ | decimal _ | string _ => cases read

end

end LogSieve.Json
