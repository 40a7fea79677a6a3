import LogSieve.Profile.Decode
import LogSieve.Proofs.SharedConditions

/-! Drafts after any steps whatever. What a step binds and what it writes does not depend on what was
written before, but for the word that opens a condition; so the parameters of a run are those of its
steps, and its placeholders are theirs beside the question marks that fixed fragments bring along. -/

namespace LogSieve.Sql

/-- What may stand for a table: letters, digits and underscores of ASCII, and no digit in front. -/
structure Identifier (name : List Char) : Prop where
  nonempty : name ≠ []
  starts : ∀ c ∈ name.head?, Text.isAsciiLetter c = true ∨ c = '_'
  continues : ∀ c ∈ name, Text.isAsciiWord c = true

theorem isIdentifier_iff {name : List Char} : isIdentifier name = true ↔ Identifier name := by
  cases name with
  | nil => exact iff_of_false nofun fun identifier => identifier.nonempty rfl
  | cons c rest =>
    rw [isIdentifier, Bool.and_eq_true, Bool.or_eq_true, beq_iff_eq, List.all_eq_true]
    constructor
    · rintro ⟨first, others⟩
      refine ⟨List.cons_ne_nil c rest, by simpa using first, List.forall_mem_cons.mpr ⟨?_, others⟩⟩
      rcases first with letter | rfl
      · simp [Text.isAsciiWord, letter]
      · rfl
    · rintro ⟨-, starts, continues⟩
      exact ⟨starts c rfl, fun d member => continues d (List.mem_cons_of_mem c member)⟩

/-- Exactly the identifiers are taken for tables, and none of them is changed. -/
theorem TableName.ofString_eq_ok_iff {name : String} {table : TableName} :
    TableName.ofString name = .ok table ↔ table.name = name ∧ Identifier name.toList := by
  rw [← isIdentifier_iff]
  unfold TableName.ofString
  constructor
  · intro accepted
    split at accepted
    next plain =>
      cases accepted
      exact ⟨rfl, plain⟩
    next => cases accepted
  · rintro ⟨rfl, plain⟩
    rw [dif_pos plain]
    rfl

end LogSieve.Sql

namespace LogSieve.Profile
open Sql

theorem tableName_eq_ok_iff {value : Json} {table : TableName} :
    tableName value = .ok table ↔ value = .string table.name ∧ Identifier table.name.toList := by
  cases value with
  | string name =>
    have named : tableName (.string name) = .ok table ↔ TableName.ofString name = .ok table := by
      cases outcome : TableName.ofString name with
      | ok accepted =>
        have read : tableName (.string name) = .ok accepted := by
          simp [tableName, text, Json.expect, Json.string?, outcome, bind, Except.bind, pure, Except.pure]
        rw [read, Except.ok.injEq, Except.ok.injEq]
      | error cause =>
        have read : tableName (.string name) = .error (.badTableName cause) := by
          simp [tableName, text, Json.expect, Json.string?, outcome, bind, Except.bind, pure, Except.pure,
            throw, throwThe, MonadExceptOf.throw]
        rw [read]
        exact iff_of_false nofun nofun
    rw [named, TableName.ofString_eq_ok_iff, Json.string.injEq, eq_comm]
    constructor
    · rintro ⟨rfl, identifier⟩
      exact ⟨rfl, identifier⟩
    · rintro ⟨rfl, identifier⟩
      exact ⟨rfl, identifier⟩
  | null | bool _ | integer _ | decimal _ | array _ | object _ =>
    exact iff_of_false nofun nofun

end LogSieve.Profile

namespace LogSieve.Sql.Draft

namespace Step

def bound : Step → List Value
  | .value item => [item]
  | .values items => items
  | _ => []

def fixed : Step → List Char
  | .sql fragment => fragment.toList
  | _ => []

def opens : Step → Bool
  | .openCondition => true
  | _ => false

/-- What a step writes; `opened` says whether there is a condition already. -/
def written (opened : Bool) : Step → String
  | .sql fragment => fragment
  | .column named => named.name
  | .table named => named.name
  | .value _ => "?"
  | .values items => "(" ++ ", ".intercalate (items.map fun _ => "?") ++ ")"
  | .openCondition => if opened then " AND " else " WHERE "

end Step

theorem text_bindItems (draft : Draft) (values : List Value) :
    (draft.bindItems values).text = draft.text ++ ", ".intercalate (values.map fun _ => "?") := by
  fun_induction bindItems draft values with
  | case1 draft => simp
  | case2 draft value => simp [bind]
  | case3 draft value values more ih =>
    rw [ih, List.map_cons, String.intercalate_cons_of_ne_nil (by simpa using more)]
    simp only [sql, bind, String.append_assoc]

theorem count_placeholders (values : List Value) :
    (", ".intercalate (values.map fun _ => "?")).toList.count '?' = values.length := by
  induction values with
  | nil => simp
  | cons value values ih =>
    cases values with
    | nil => simp
    | cons next values =>
      rw [List.map_cons] at ih
      rw [List.map_cons, List.map_cons, String.intercalate_cons_cons, String.toList_append,
        String.toList_append, List.count_append, List.count_append, ih]
      simp
      omega

section
variable (draft : Draft) (step : Step)

theorem text_step : (draft.step step).text = draft.text ++ step.written draft.filtered := by
  cases step with
  | values values =>
    change ((draft.sql "(").bindItems values).text ++ ")" = _
    rw [text_bindItems]
    simp only [sql, Step.written, String.append_assoc]
  | openCondition =>
    change draft.openCondition.text = _
    unfold openCondition Step.written
    split <;> rfl
  | sql _ | column _ | table _ | value _ => rfl

theorem params_step : (draft.step step).params = draft.params ++ step.bound := by
  cases step with
  | value value => rfl
  | values values => exact params_bindItems (draft.sql "(") values
  | openCondition => exact (params_openCondition draft).trans (List.append_nil _).symm
  | sql _ | column _ | table _ => exact (List.append_nil _).symm

theorem filtered_step : (draft.step step).filtered = (draft.filtered || step.opens) := by
  cases step with
  | values values => exact (filtered_bindItems (draft.sql "(") values).trans (Bool.or_false _).symm
  | openCondition => exact (filtered_openCondition draft).trans (Bool.or_true _).symm
  | sql _ | column _ | table _ | value _ => exact (Bool.or_false _).symm

end

theorem Step.count_written (step : Step) (opened : Bool) :
    (step.written opened).toList.count '?' = step.bound.length + step.fixed.count '?' := by
  cases step with
  | sql fragment => exact (Nat.zero_add _).symm
  | column named =>
    have fixed : '?' ∉ named.name.toList := by cases named <;> decide
    exact List.count_eq_zero.mpr fixed
  | table named => exact List.count_eq_zero.mpr named.fixed
  | value item =>
    have one : "?".toList.count '?' = 1 := by decide
    exact one
  | values items =>
    rw [Step.written, String.toList_append, String.toList_append, List.count_append, List.count_append,
      count_placeholders]
    simp [bound, fixed]
  | openCondition => cases opened <;> rfl

/-- Beside one for each value, the text has `raw` question marks. -/
def Balanced (draft : Draft) (raw : Nat) : Prop :=
  draft.text.toList.count '?' = draft.params.length + raw

theorem Balanced.step {draft : Draft} {raw : Nat} (balanced : draft.Balanced raw) (step : Step) :
    (draft.step step).Balanced (raw + step.fixed.count '?') := by
  unfold Balanced at balanced ⊢
  rw [text_step, params_step, String.toList_append, List.count_append, balanced, step.count_written,
    List.length_append]
  omega

def grow (draft : Draft) (steps : List Step) : Draft := steps.foldl Draft.step draft

theorem grow_append (draft : Draft) (before after : List Step) :
    draft.grow (before ++ after) = (draft.grow before).grow after :=
  List.foldl_append

theorem Balanced.grow {draft : Draft} {raw : Nat} (balanced : draft.Balanced raw) (steps : List Step) :
    (draft.grow steps).Balanced (raw + (steps.flatMap Step.fixed).count '?') := by
  induction steps generalizing draft raw with
  | nil => exact balanced
  | cons step steps ih =>
    rw [List.flatMap_cons, List.count_append, ← Nat.add_assoc]
    exact ih (balanced.step step)

section
variable (draft : Draft) (steps : List Step)

theorem params_grow : (draft.grow steps).params = draft.params ++ steps.flatMap Step.bound := by
  induction steps generalizing draft with
  | nil => exact (List.append_nil _).symm
  | cons step steps ih =>
    have first := params_step draft step
    rw [List.flatMap_cons, ← List.append_assoc, ← first]
    exact ih (draft.step step)

theorem filtered_grow : (draft.grow steps).filtered = (draft.filtered || steps.any Step.opens) := by
  induction steps generalizing draft with
  | nil => exact (Bool.or_false _).symm
  | cons step steps ih =>
    have first := filtered_step draft step
    rw [List.any_cons, ← Bool.or_assoc, ← first]
    exact ih (draft.step step)

theorem exists_text_grow : ∃ rest, (draft.grow steps).text = draft.text ++ rest := by
  induction steps generalizing draft with
  | nil => exact ⟨"", String.append_empty.symm⟩
  | cons step steps ih =>
    obtain ⟨rest, later⟩ := ih (draft.step step)
    refine ⟨step.written draft.filtered ++ rest, ?_⟩
    rw [← String.append_assoc, ← text_step]
    exact later

end

theorem exists_text_grow_openCondition (before after : List Step) :
    ∃ rest, (grow {} (before ++ .openCondition :: after)).text = (grow {} before).text ++
      (if before.any Step.opens then " AND " else " WHERE ") ++ rest := by
  have opened : (grow {} before).filtered = before.any Step.opens := by
    rw [filtered_grow, Bool.false_or]
  obtain ⟨rest, later⟩ := exists_text_grow ((grow {} before).step .openCondition) after
  refine ⟨rest, ?_⟩
  rw [text_step, opened] at later
  rw [grow_append]
  exact later

/-- Whatever steps a draft is made of, in whatever order: its parameters are the values of the steps one
behind the other, its placeholders are one for each of them and the question marks of fixed fragments,
and the first condition is opened with `WHERE`, all later ones with `AND`. What is written for a table is
an identifier, wherever the table comes from. -/
theorem grow_invariant (steps : List Step) :
    (grow {} steps).finish.params = steps.flatMap Step.bound ∧
    (grow {} steps).finish.placeholders =
      (grow {} steps).finish.params.length + (steps.flatMap Step.fixed).count '?' ∧
    (∀ before after, ∃ rest, (grow {} (before ++ .openCondition :: after)).text =
      (grow {} before).text ++ (if before.any Step.opens then " AND " else " WHERE ") ++ rest) ∧
    (∀ name table, TableName.ofString name = .ok table ↔
      table.name = name ∧ Identifier name.toList) ∧
    Identifier (default : TableName).name.toList ∧
    ∀ value table, Profile.tableName value = .ok table ↔
      value = .string table.name ∧ Identifier table.name.toList := by
  have empty : ({} : Draft).Balanced 0 := rfl
  have balanced := empty.grow steps
  rw [Nat.zero_add] at balanced
  refine ⟨params_grow {} steps, balanced, exists_text_grow_openCondition,
    fun name table => TableName.ofString_eq_ok_iff, ?_, fun value table => Profile.tableName_eq_ok_iff⟩
  exact isIdentifier_iff.mp (default : TableName).isIdentifier

example : (grow {} [.sql "SELECT ?", .openCondition, .column .status, .sql " IN ", .values [],
    .openCondition, .values [.integer 404, .text "?"]]).text =
      "SELECT ? WHERE status IN () AND (?, ?)" := by decide

end LogSieve.Sql.Draft
