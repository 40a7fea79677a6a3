import LogSieve.Proofs.Admission
import LogSieve.Proofs.WhereClause

/-! Empty groups in compiled statements. Parentheses stand around the members of a set and around the
alternatives of a predicate, and nowhere else behind the table. A set without members is never written,
so that only a predicate without values can leave a group empty. -/

namespace LogSieve.Sql

/-- Text with a group that holds nothing. -/
def Hollow (text : String) : Prop := "()".toList <:+: text.toList

instance (text : String) : Decidable (Hollow text) :=
  inferInstanceAs (Decidable ("()".toList <:+: text.toList))

def Bare (text : String) : Prop := '(' ∉ text.toList ∧ ')' ∉ text.toList

instance (text : String) : Decidable (Bare text) :=
  inferInstanceAs (Decidable ('(' ∉ text.toList ∧ ')' ∉ text.toList))

theorem hollow_append {first second : String}
    (apart : first.toList.getLast? ≠ some '(' ∨ second.toList.head? ≠ some ')') :
    Hollow (first ++ second) ↔ Hollow first ∨ Hollow second := by
  unfold Hollow
  rw [String.toList_append, List.infix_append_iff_ne_nil]
  refine or_congr_right (or_iff_left ?_)
  rintro ⟨left, right, someLeft, someRight, parts, before, after⟩
  obtain ⟨c, more, rfl⟩ := List.exists_cons_of_ne_nil someLeft
  obtain ⟨rfl, rest⟩ := List.cons_eq_cons.mp parts
  cases more with
  | nil =>
    obtain rfl : right = [')'] := rest.symm
    rw [List.singleton_suffix_iff_getLast?_eq_some] at before
    rw [List.singleton_prefix_iff_head?_eq_some] at after
    exact apart.elim (fun other => other before) fun other => other after
  | cons d more =>
    obtain ⟨-, none⟩ := List.cons_eq_cons.mp rest
    exact someRight (List.append_eq_nil_iff.mp none.symm).2

namespace Bare
variable {first second text : String}

theorem append (bare : Bare first) (next : Bare second) : Bare (first ++ second) := by
  unfold Bare at *
  rw [String.toList_append, List.mem_append, List.mem_append]
  exact ⟨fun inside => inside.elim bare.1 next.1, fun inside => inside.elim bare.2 next.2⟩

theorem intercalate {link : String} (linked : Bare link) {texts : List String}
    (all : ∀ text ∈ texts, Bare text) : Bare (link.intercalate texts) := by
  induction texts with
  | nil =>
    rw [String.intercalate_nil]
    decide
  | cons first rest ih =>
    have later := ih fun text further => all text (List.mem_cons_of_mem first further)
    cases rest with
    | nil =>
      rw [String.intercalate_singleton]
      exact all first List.mem_cons_self
    | cons next rest =>
      rw [String.intercalate_cons_cons]
      exact ((all first List.mem_cons_self).append linked).append later

theorem not_hollow (bare : Bare text) : ¬ Hollow text := by
  intro hollow
  exact bare.1 (hollow.subset List.mem_cons_self)

theorem hollow_append_left (bare : Bare first) (second : String) :
    Hollow (first ++ second) ↔ Hollow second := by
  rw [hollow_append, or_iff_right bare.not_hollow]
  left
  intro ends
  exact bare.1 (List.mem_of_getLast? ends)

theorem hollow_append_right (first : String) (bare : Bare second) :
    Hollow (first ++ second) ↔ Hollow first := by
  rw [hollow_append, or_iff_left bare.not_hollow]
  right
  intro begins
  exact bare.2 (List.mem_of_head? begins)

theorem getLast?_append (bare : Bare second) (visible : second ≠ "") (first : String) :
    (first ++ second).toList.getLast? ≠ some '(' := by
  rw [String.toList_append,
    List.getLast?_append_of_ne_nil _ (String.toList_eq_nil_iff.not.mpr visible)]
  intro ends
  exact bare.1 (List.mem_of_getLast? ends)

theorem hollow_join {link : String} (linked : Bare link) (visible : link ≠ "") (first second : String) :
    Hollow (first ++ link ++ second) ↔ Hollow first ∨ Hollow second := by
  rw [hollow_append (.inl (linked.getLast?_append visible first)), linked.hollow_append_right]

theorem hollow_intercalate {link : String} (linked : Bare link) (visible : link ≠ "")
    (texts : List String) : Hollow (link.intercalate texts) ↔ ∃ text ∈ texts, Hollow text := by
  induction texts with
  | nil =>
    rw [String.intercalate_nil]
    simp only [List.not_mem_nil, false_and, exists_false, iff_false]
    decide
  | cons first rest ih =>
    cases rest with
    | nil => simp
    | cons next rest =>
      rw [String.intercalate_cons_cons, linked.hollow_join visible, ih]
      simp only [List.mem_cons, exists_eq_or_imp]

theorem hollow_group (bare : Bare text) : Hollow ("(" ++ text ++ ")") ↔ text = "" := by
  by_cases empty : text = ""
  · subst empty
    decide
  · have opened : ¬ Hollow ("(" ++ text) := by
      rw [bare.hollow_append_right]
      decide
    have closed : ¬ Hollow ")" := by decide
    rw [hollow_append (.inl (bare.getLast?_append empty "("))]
    simp only [opened, closed, or_self, empty]

theorem hollow_list {link : String} (linked : Bare link) {texts : List String}
    (all : ∀ text ∈ texts, Bare text ∧ text ≠ "") :
    Hollow ("(" ++ link.intercalate texts ++ ")") ↔ texts = [] := by
  have bare : Bare (link.intercalate texts) := linked.intercalate fun text member => (all text member).1
  rw [bare.hollow_group]
  cases texts with
  | nil => simp
  | cons first rest =>
    have shown := (all first List.mem_cons_self).2
    cases rest with
    | nil => simp [shown]
    | cons next rest => simp [String.intercalate_cons_cons, shown]

end Bare

theorem bare_column (column : Column) : Bare column.name := by
  cases column <;> decide

theorem bare_table (table : TableName) : Bare table.name := by
  obtain ⟨-, letters⟩ := table.isAsciiWord_toList
  constructor
  · intro inside
    exact absurd (letters _ inside) (by decide)
  · intro inside
    exact absurd (letters _ inside) (by decide)

theorem bare_like (escape : Bool) (column : Column) (literal : String) :
    Bare (Inlined.like (fun _ => "?") escape column.name literal) := by
  have comparison : Bare (column.name ++ " LIKE " ++ "?") :=
    ((bare_column column).append (by decide)).append (by decide)
  cases escape with
  | true => exact comparison.append (by decide)
  | false => exact comparison.append (by decide)

theorem like_ne_empty (escape : Bool) (column : Column) (literal : String) :
    Inlined.like (fun _ => "?") escape column.name literal ≠ "" := by
  cases column <;> simp [Inlined.like, Column.name]

/-- A condition has an empty group if it has no values to compare with. -/
theorem hollow_condition_iff (escape : Bool) (condition : Condition) :
    Hollow (Inlined.condition (fun _ => "?") escape condition) ↔ ¬ condition.Filled := by
  cases condition with
  | inScope scope =>
    have bare : Bare "log_file_id = ?" := by decide
    exact iff_of_false bare.not_hollow (not_not_intro trivial)
  | among column values =>
    have bare : Bare (column.name ++ " IN ") := (bare_column column).append (by decide)
    rw [Inlined.condition, bare.hollow_append_left, Bare.hollow_list (by decide)]
    · simp only [Condition.Filled, List.map_eq_nil_iff, ne_eq, not_not]
    · intro text member
      obtain ⟨value, -, rfl⟩ := List.mem_map.mp member
      decide
  | holds column predicate =>
    cases predicate with
    | single literal =>
      exact iff_of_false (bare_like escape column literal).not_hollow
        (not_not_intro (List.cons_ne_nil _ _))
    | anyOf literals =>
      rw [Inlined.condition, Inlined.holds, Bare.hollow_list (by decide)]
      · simp only [Condition.Filled, Filter.Predicate.values, List.map_eq_nil_iff, ne_eq, not_not]
      · intro text member
        obtain ⟨literal, -, rfl⟩ := List.mem_map.mp member
        exact ⟨bare_like escape column literal, like_ne_empty escape column literal⟩
  | atLeast column bound | atMost column bound =>
    have placeholder : Bare "?" := by decide
    refine iff_of_false (Bare.not_hollow ?_) (not_not_intro trivial)
    exact ((bare_column column).append (by decide)).append placeholder

namespace Compiler
variable (compiler : Compiler) (filter : Filter) (scope : Option String)

theorem hollow_clause_iff : Hollow (compiler.clause filter scope) ↔
    ∃ condition ∈ Sql.conditions filter scope, ¬ condition.Filled := by
  rw [clause, ← map_condition_conditions]
  cases Sql.conditions filter scope with
  | nil =>
    simp only [List.map_nil, Inlined.whereClause, List.not_mem_nil, false_and, exists_false, iff_false]
    decide
  | cons first others =>
    have opening : Bare " WHERE " := by decide
    have link : Bare " AND " := by decide
    change Hollow (" WHERE " ++ " AND ".intercalate ((first :: others).map _)) ↔ _
    rw [opening.hollow_append_left, link.hollow_intercalate (by decide)]
    simp only [List.mem_map, exists_exists_and_eq_and, hollow_condition_iff]

theorem hollow_statement_iff {head tail : String} (full : ¬ Hollow head) (bare : Bare tail) :
    Hollow (head ++ compiler.table.name ++ compiler.clause filter scope ++ tail) ↔
      Hollow (compiler.clause filter scope) := by
  have table := bare_table compiler.table
  have front : ¬ Hollow (head ++ compiler.table.name) := by
    rw [table.hollow_append_right]
    exact full
  have named : compiler.table.name ≠ "" :=
    String.toList_eq_nil_iff.not.mp compiler.table.isAsciiWord_toList.1
  rw [bare.hollow_append_right, hollow_append (.inl (table.getLast?_append named head)),
    or_iff_right front]

theorem hollow_rows_iff (request : SortRequest) :
    Hollow (compiler.rows filter request scope).text ↔ Hollow (compiler.clause filter scope) := by
  have sorted (order : SortOrder) :
      Bare (" ORDER BY " ++ order.column.name ++ " " ++ order.direction.keyword) := by
    obtain ⟨column, direction⟩ := order
    cases column <;> cases direction <;> decide
  rw [rows_eq]
  exact compiler.hollow_statement_iff filter scope (by decide) (sorted _)

theorem hollow_count_iff :
    Hollow (compiler.count filter scope).text ↔ Hollow (compiler.clause filter scope) := by
  have head : ¬ Hollow "SELECT COUNT(*) AS total FROM " := by decide
  have whole := compiler.hollow_statement_iff filter scope head (by decide : Bare "")
  rw [String.append_empty] at whole
  rw [count_eq]
  exact whole

theorem hollow_histogram_iff (bucket : Bucket) :
    Hollow (compiler.histogram filter scope bucket).text ↔ Hollow (compiler.clause filter scope) := by
  have head : ¬ Hollow ("SELECT " ++ bucket.expression ++ " AS bucket, COUNT(*) AS hits FROM ") := by
    cases bucket <;> decide +kernel
  rw [histogram_eq]
  exact compiler.hollow_statement_iff filter scope head (by decide)

variable {compiler filter scope}

/-- Whatever is compiled has an empty group exactly if some predicate has no values. -/
theorem Emits.hollow_iff {statement : Statement} (emitted : compiler.Emits filter scope statement) :
    Hollow statement.text ↔ ∃ condition ∈ Sql.conditions filter scope, ¬ condition.Filled := by
  rw [← hollow_clause_iff]
  cases emitted with
  | rows request => exact compiler.hollow_rows_iff filter scope request
  | page request page statement compiled =>
    obtain ⟨window, -, rfl⟩ := compiler.exists_window_of_page_eq_ok filter scope compiled
    have placed : Bare " LIMIT ? OFFSET ?" := by decide
    rw [placed.hollow_append_right]
    exact compiler.hollow_rows_iff filter scope request
  | count => exact compiler.hollow_count_iff filter scope
  | histogram bucket => exact compiler.hollow_histogram_iff filter scope bucket

theorem Emits.not_hollow {statement : Statement} (emitted : compiler.Emits filter scope statement)
    (crawler : ∀ predicate ∈ filter.crawler, predicate.values ≠ [])
    (path : ∀ predicate ∈ filter.path, predicate.values ≠ []) : ¬ Hollow statement.text := by
  rw [emitted.hollow_iff]
  rintro ⟨condition, asked, empty⟩
  exact empty (filled_conditions crawler path scope condition asked)

end Compiler

end LogSieve.Sql
