import Mathlib.Data.List.Count
import LogSieve.Sql.Condition

/-! Placeholders and the values they stand for. A draft has one value for each placeholder at every
moment, and writing the values in their places follows the draft step by step. -/

namespace LogSieve.Sql

/-- The text with its placeholders replaced from left to right; what is put in is not read again. -/
def fill (write : Value → String) : List Char → List Value → List Char
  | [], _ => []
  | '?' :: rest, value :: values => (write value).toList ++ fill write rest values
  | c :: rest, values => c :: fill write rest values

theorem fill_cons {write : Value → String} {c : Char} (fixed : c ≠ '?') (rest : List Char)
    (values : List Value) : fill write (c :: rest) values = c :: fill write rest values :=
  fill.eq_3 write values c rest fun _ _ _ question => fixed question

theorem fill_append (write : Value → String) {before after : List Char} {first second : List Value}
    (count : before.count '?' = first.length) :
    fill write (before ++ after) (first ++ second) =
      fill write before first ++ fill write after second := by
  induction before generalizing first with
  | nil =>
    have empty : first = [] := List.length_eq_zero_iff.mp count.symm
    simp [empty, fill]
  | cons c rest ih =>
    by_cases question : c = '?'
    · subst question
      rw [List.count_cons_self] at count
      obtain ⟨value, values, rfl⟩ := List.exists_cons_of_length_pos (by omega : 0 < first.length)
      have shorter : rest.count '?' = values.length := Nat.succ.inj count
      simp [fill, ih shorter]
    · rw [List.count_cons_of_ne question] at count
      simp [fill_cons question, ih count]

theorem fill_fixed (write : Value → String) {text : List Char} (fixed : '?' ∉ text) :
    fill write text [] = text := by
  induction text with
  | nil => rfl
  | cons c rest ih =>
    simp only [List.mem_cons, not_or] at fixed
    rw [fill_cons (Ne.symm fixed.1), ih fixed.2]

namespace TableName
variable (table : TableName)

theorem isAsciiWord_toList : table.name.toList ≠ [] ∧
    ∀ c ∈ table.name.toList, Text.isAsciiWord c = true := by
  have plain := table.isIdentifier
  unfold Sql.isIdentifier at plain
  split at plain
  next => cases plain
  next c rest letters =>
    rw [Bool.and_eq_true, List.all_eq_true] at plain
    rw [letters]
    refine ⟨List.cons_ne_nil c rest, fun d member => ?_⟩
    rcases List.mem_cons.mp member with rfl | member
    · rcases Bool.or_eq_true_iff.mp plain.1 with letter | underscore
      · simp [Text.isAsciiWord, letter]
      · simp [Text.isAsciiWord, underscore]
    · exact plain.2 d member

theorem fixed : '?' ∉ table.name.toList := fun inside =>
  absurd (table.isAsciiWord_toList.2 _ inside) (by decide)

end TableName

/-- A statement has a value for each placeholder, and is the inlined text once these are filled in. -/
structure Statement.ReadsAs (statement : Statement) (inlined : (Value → String) → String) : Prop where
  count : statement.placeholders = statement.params.length
  filled : ∀ write,
    String.ofList (fill write statement.text.toList statement.params) = inlined write

namespace Draft

def ReadsAs (draft : Draft) (inlined : (Value → String) → String) : Prop :=
  draft.finish.ReadsAs inlined

namespace ReadsAs
variable {draft : Draft} {inlined : (Value → String) → String}

theorem congr (reads : draft.ReadsAs inlined) {other : (Value → String) → String}
    (same : ∀ write, inlined write = other write) : draft.ReadsAs other :=
  funext same ▸ reads

theorem empty : ({} : Draft).ReadsAs fun _ => "" := ⟨rfl, fun _ => rfl⟩

/-- What every step does: it appends text with as many placeholders as values. -/
theorem append (reads : draft.ReadsAs inlined) {next : Draft} {fragment : String}
    {values : List Value} {addition : (Value → String) → String}
    (text : next.text = draft.text ++ fragment) (params : next.params = draft.params ++ values)
    (count : fragment.toList.count '?' = values.length)
    (filled : ∀ write, fill write fragment.toList values = (addition write).toList) :
    next.ReadsAs fun write => inlined write ++ addition write := by
  have before : draft.text.toList.count '?' = draft.params.length := reads.count
  refine ⟨?_, fun write => ?_⟩
  · simp [Statement.placeholders, finish, text, params, before, count]
  · have left := congrArg String.toList (reads.filled write)
    simp only [finish, String.toList_ofList] at left
    refine String.toList_inj.mp ?_
    simp only [finish, text, params, String.toList_ofList, String.toList_append]
    rw [fill_append write before, filled, left]

theorem sql (reads : draft.ReadsAs inlined) {fragment : String} (fixed : '?' ∉ fragment.toList) :
    (draft.sql fragment).ReadsAs fun write => inlined write ++ fragment :=
  reads.append rfl (List.append_nil _).symm (List.count_eq_zero.mpr fixed) fun write =>
    fill_fixed write fixed

theorem column (reads : draft.ReadsAs inlined) (column : Column) :
    (draft.column column).ReadsAs fun write => inlined write ++ column.name :=
  reads.sql (by cases column <;> decide)

theorem table (reads : draft.ReadsAs inlined) (table : TableName) :
    (draft.table table).ReadsAs fun write => inlined write ++ table.name :=
  reads.sql table.fixed

theorem bind (reads : draft.ReadsAs inlined) (value : Value) :
    (draft.bind value).ReadsAs fun write => inlined write ++ write value :=
  reads.append rfl rfl rfl fun write => by simp [fill]

theorem bindItems (reads : draft.ReadsAs inlined) (values : List Value) :
    (draft.bindItems values).ReadsAs fun write =>
      inlined write ++ ", ".intercalate (values.map write) := by
  fun_induction Draft.bindItems draft values generalizing inlined with
  | case1 draft => simpa using reads
  | case2 draft value => simpa using reads.bind value
  | case3 draft value values more ih =>
    refine (ih ((reads.bind value).sql (by decide))).congr fun write => ?_
    rw [List.map_cons, String.intercalate_cons_of_ne_nil (by simpa using more)]
    simp only [String.append_assoc]

theorem bindList (reads : draft.ReadsAs inlined) (values : List Value) :
    (draft.bindList values).ReadsAs fun write =>
      inlined write ++ ("(" ++ ", ".intercalate (values.map write) ++ ")") := by
  refine (((reads.sql (by decide)).bindItems values).sql (by decide)).congr fun write => ?_
  simp only [String.append_assoc]

theorem openCondition (reads : draft.ReadsAs inlined) : draft.openCondition.ReadsAs fun write =>
    inlined write ++ if draft.filtered then " AND " else " WHERE " := by
  unfold Draft.openCondition
  split
  · exact reads.sql (by decide)
  · exact reads.sql (by decide)

end ReadsAs

end Draft

end LogSieve.Sql
