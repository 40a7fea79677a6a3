import LogSieve.Sql.SortOrder

/-! What a request for a sort order comes to. Three defaults meet here: the configured order fills what is
not asked for, an unknown column discards all that is asked for, and a word that is no direction stands for
descending. -/

namespace LogSieve.Sql
open Text

/-- The direction that a word stands for, whatever the case of its letters. -/
inductive Directs (word : String) : Direction → Prop where
  | ascending (spelled : lowerAscii word.toList = "asc".toList) : Directs word .ascending
  | descending (spelled : lowerAscii word.toList = "desc".toList) : Directs word .descending
  | neither (notAscending : lowerAscii word.toList ≠ "asc".toList)
      (notDescending : lowerAscii word.toList ≠ "desc".toList) : Directs word .descending

/-- What is meant by a part of a request: by its text, or without one by the default. -/
inductive Chosen {α : Type} (means : String → α → Prop) (default : α) : Option String → α → Prop where
  | absent : Chosen means default none default
  | given {text : String} {value : α} (meant : means text value) :
      Chosen means default (some text) value

/-- The order that a request comes to. Either it names a column that nobody knows, or its two parts count
each for itself. -/
inductive Resolves (request : SortRequest) (default : SortOrder) : SortOrder → Prop where
  | unknown {name : String} (given : request.column = some name)
      (unknown : ∀ column : Column, column.name ≠ name) :
      Resolves request default { column := .time, direction := .descending }
  | known {column : Column} {direction : Direction}
      (ordered : Chosen (fun name column => column.name = name) default.column request.column column)
      (directed : Chosen Directs default.direction request.direction direction) :
      Resolves request default { column, direction }

theorem sameAscii_iff_of_small {keyword : List Char} (small : lowerAscii keyword = keyword)
    (text : List Char) : sameAscii keyword text = true ↔ lowerAscii text = keyword := by
  rw [sameAscii, small, beq_iff_eq, eq_comm]

theorem Direction.ofToken?_eq (word : String) : ofToken? word =
    if lowerAscii word.toList = "asc".toList then some .ascending
    else if lowerAscii word.toList = "desc".toList then some .descending else none := by
  have ascending := sameAscii_iff_of_small (by decide : lowerAscii "asc".toList = "asc".toList) word.toList
  have descending := sameAscii_iff_of_small (by decide : lowerAscii "desc".toList = "desc".toList) word.toList
  simp only [← ascending, ← descending]
  unfold ofToken?
  simp only [List.find?_cons, List.find?_nil, name]
  cases sameAscii "asc".toList word.toList <;> cases sameAscii "desc".toList word.toList <;> rfl

theorem directs_iff {word : String} {direction : Direction} :
    Directs word direction ↔ (Direction.ofToken? word).getD .descending = direction := by
  rw [Direction.ofToken?_eq]
  constructor
  · rintro (spelled | spelled | ⟨notAscending, notDescending⟩)
    · rw [if_pos spelled]
      rfl
    · have apart : lowerAscii word.toList ≠ "asc".toList := by
        rw [spelled]
        decide
      rw [if_neg apart, if_pos spelled]
      rfl
    · rw [if_neg notAscending, if_neg notDescending]
      rfl
  · rintro rfl
    split
    next spelled => exact .ascending spelled
    next notAscending =>
      split
      next spelled => exact .descending spelled
      next notDescending => exact .neither notAscending notDescending

theorem chosen_iff {α : Type} {means : String → α → Prop} {read : String → α} {default value : α}
    (agree : ∀ text, means text value ↔ read text = value) (asked : Option String) :
    Chosen means default asked value ↔ asked.elim default read = value := by
  constructor
  · rintro (_ | meant)
    · rfl
    · exact (agree _).mp meant
  · intro same
    cases asked with
    | none => exact same ▸ .absent
    | some text => exact .given ((agree text).mpr same)

theorem ofName?_eq_none_iff {name : String} :
    Column.ofName? name = none ↔ ∀ column : Column, column.name ≠ name := by
  constructor
  · rintro unknown column rfl
    rw [Column.ofName?_name] at unknown
    cases unknown
  · intro unknown
    rw [Column.ofName?, List.find?_eq_none]
    intro column _
    simpa using unknown column

theorem name_of_ofName? {name : String} {column : Column} (found : Column.ofName? name = some column) :
    column.name = name := by
  simpa using List.find?_some found

theorem directs_keyword (direction : Direction) : Directs direction.keyword direction := by
  cases direction with
  | ascending => exact .ascending (by decide)
  | descending => exact .descending (by decide)

section
variable {request : SortRequest} {default order : SortOrder}

theorem chosen_direction_iff {direction : Direction} :
    Chosen Directs default.direction request.direction direction ↔
      request.resolveDirection default.direction = direction :=
  chosen_iff (fun _ => directs_iff) request.direction

theorem resolves_resolveWith (request : SortRequest) (default : SortOrder) :
    Resolves request default (request.resolveWith default) := by
  have directed : Chosen Directs default.direction request.direction
      (request.resolveDirection default.direction) := chosen_direction_iff.mpr rfl
  unfold SortRequest.resolveWith
  split
  next absent => exact .known (absent ▸ .absent) directed
  next name given =>
    split
    next column found => exact .known (given ▸ .given (name_of_ofName? found)) directed
    next unknown => exact .unknown given (ofName?_eq_none_iff.mp unknown)

theorem Resolves.resolveWith_eq (resolves : Resolves request default order) :
    request.resolveWith default = order := by
  obtain ⟨asked, direction⟩ := request
  cases resolves with
  | unknown given unknown =>
    cases given
    simp only [SortRequest.resolveWith, ofName?_eq_none_iff.mpr unknown]
    rfl
  | known ordered directed =>
    have chosen := chosen_direction_iff.mp directed
    cases ordered with
    | absent => simp only [SortRequest.resolveWith, chosen]
    | given named =>
      subst named
      simp only [SortRequest.resolveWith, Column.ofName?_name, chosen]

end

/-- A request for a resolved order leaves nothing to the default. -/
theorem resolves_ofOrder (order default : SortOrder) :
    Resolves (SortRequest.ofOrder order) default order :=
  .known (.given rfl) (.given (directs_keyword order.direction))

/-- Every request comes to exactly one order, whatever texts it holds, and the order that it comes to is
kept when it is asked for in its turn, whatever the default is then. -/
theorem resolveWith_eq_iff_resolves (request : SortRequest) (default order : SortOrder) :
    (request.resolveWith default = order ↔ Resolves request default order) ∧
    ∀ other, (SortRequest.ofOrder (request.resolveWith default)).resolveWith other =
      request.resolveWith default := by
  refine ⟨⟨?_, Resolves.resolveWith_eq⟩, fun other => ?_⟩
  · rintro rfl
    exact resolves_resolveWith request default
  · exact (resolves_ofOrder (request.resolveWith default) other).resolveWith_eq

/-- The default has no part in the order of a request for an unknown column. -/
example : SortRequest.resolveWith { column := some "Status", direction := some "asc" }
    { column := .path, direction := .ascending } = .latestFirst := by decide

end LogSieve.Sql
