import LogSieve.Proofs.ContinuedText
import LogSieve.Proofs.ReadOnlyCheck
import LogSieve.Proofs.SharedConditions

/-! The words of compiled statements. What is written behind a table is put together from fragments with
gaps between them: its words are keywords and columns, and no character of it begins a comment or ends
the statement. Before the table stand a few fixed heads. -/

namespace LogSieve.Sql
open Text

/-- The words that the compiler writes, other than tables and the words of a page's window. -/
def vocabulary : List (List Char) :=
  (["SELECT", "FROM", "WHERE", "AND", "OR", "IN", "LIKE", "ESCAPE", "GROUP", "ORDER", "BY", "ASC", "DESC",
    "COUNT", "AS", "total", "hits", "bucket", "strftime", "Y", "m", "d", "H", "M", "00", scopeColumn] ++
    Column.all.map Column.name).map String.toList

/-- Characters that part words. -/
def isGap (c : Char) : Bool := decide (c.toNat < 0x80) && !isAsciiWord c

theorem not_isWordChar_of_isGap {c : Char} (gap : isGap c = true) : isWordChar c = false := by
  rw [isGap, Bool.and_eq_true, decide_eq_true_eq, Bool.not_eq_true'] at gap
  exact isWordChar_eq_false gap.1 gap.2

/-- Text that may follow a word without growing it. -/
def Gapped (text : String) : Prop := text.toList.head?.all isGap = true

/-- Text that a word may follow without growing. -/
def Closed (text : String) : Prop := text.toList.getLast?.all isGap = true

instance (text : String) : Decidable (Gapped text) := inferInstanceAs (Decidable (_ = true))

instance (text : String) : Decidable (Closed text) := inferInstanceAs (Decidable (_ = true))

theorem names_gapped (first : String) {second : String} (gapped : Gapped second) :
    names (first ++ second).toList = names first.toList ++ names second.toList := by
  rw [String.toList_append]
  apply names_append_apart
  unfold Gapped at gapped
  cases begins : second.toList.head? with
  | none => simp [beginsInWord, begins]
  | some c =>
    rw [begins] at gapped
    simp [beginsInWord, begins, not_isWordChar_of_isGap gapped]

theorem names_closed {first : String} (closed : Closed first) (second : String) :
    names (first ++ second).toList = names first.toList ++ names second.toList := by
  rw [String.toList_append]
  apply names_append_of_not_endsInWord
  unfold Closed at closed
  cases ends : first.toList.getLast? with
  | none => simp [endsInWord, ends]
  | some c =>
    rw [ends] at closed
    simp [endsInWord, ends, not_isWordChar_of_isGap closed]

theorem gapped_append {first rest : String} (gapped : Gapped first) (visible : first ≠ "") :
    Gapped (first ++ rest) := by
  obtain ⟨c, more, letters⟩ := List.exists_cons_of_ne_nil (String.toList_eq_nil_iff.not.mpr visible)
  unfold Gapped at gapped ⊢
  rw [letters] at gapped
  rw [String.toList_append, letters]
  exact gapped

theorem Gapped.append {first second : String} (gapped : Gapped first) (next : Gapped second) :
    Gapped (first ++ second) := by
  by_cases empty : first = ""
  · rw [empty, String.empty_append]
    exact next
  · exact gapped_append gapped empty

/-- Text of certain words in which nothing begins a comment or ends a statement. -/
structure Plain (words : List (List Char)) (text : String) : Prop where
  smooth : ∀ c ∈ text.toList, isSmooth c = true
  single : ';' ∉ text.toList
  spoken : names text.toList ⊆ words

/-- The same to be computed, for texts of ASCII. -/
def isPlain (words : List (List Char)) (text : String) : Bool :=
  text.toList.all (fun c => decide (c.toNat < 0x80) && isSmooth c && c != ';') &&
    (runs isAsciiWord text.toList).all words.contains

/-- What stands before the table in a statement. -/
structure Head (head : String) : Prop where
  selects : beginsWith "SELECT" (trim head.toList) = true
  uncommented : dropComments head.toList = head.toList
  lineEnded : endsInLine false head.toList = false
  single : ';' ∉ head.toList
  closed : Closed head
  spoken : names head.toList ⊆ vocabulary

namespace Plain
variable {words more : List (List Char)} {first second text : String}

theorem of_isPlain (checks : isPlain words text = true) : Plain words text := by
  obtain ⟨characters, spoken⟩ := Bool.and_eq_true_iff.mp checks
  rw [List.all_eq_true] at characters spoken
  have ascii (c : Char) (member : c ∈ text.toList) : c.toNat < 0x80 ∧ isSmooth c = true := by
    simpa using (Bool.and_eq_true_iff.mp (characters c member)).1
  constructor
  · intro c member
    exact (ascii c member).2
  · intro inside
    exact absurd (characters ';' inside) (by decide)
  · rw [names_eq_of_ascii fun c member => (ascii c member).1]
    intro word member
    exact List.contains_iff_mem.mp (spoken word member)

theorem mono (plain : Plain words text) (wider : words ⊆ more) : Plain more text :=
  ⟨plain.smooth, plain.single, List.Subset.trans plain.spoken wider⟩

theorem append (plain : Plain words first) (next : Plain words second)
    (parted : Closed first ∨ Gapped second) : Plain words (first ++ second) := by
  constructor
  · intro c member
    rw [String.toList_append] at member
    rcases List.mem_append.mp member with left | right
    · exact plain.smooth c left
    · exact next.smooth c right
  · rw [String.toList_append]
    intro inside
    rcases List.mem_append.mp inside with left | right
    · exact plain.single left
    · exact next.single right
  · have apart : names (first ++ second).toList = names first.toList ++ names second.toList := by
      rcases parted with closed | gapped
      · exact names_closed closed second
      · exact names_gapped first gapped
    rw [apart]
    exact List.append_subset.mpr ⟨plain.spoken, next.spoken⟩

end Plain

/-- Fragments that part what is written before them from what is written behind. -/
structure Link (text : String) : Prop where
  plain : Plain vocabulary text
  gapped : Gapped text
  closed : Closed text
  visible : text ≠ ""

def links : List String :=
  [" WHERE ", " AND ", " OR ", ", ", " LIKE ", " IN ", " >= ", " <= ", " ORDER BY ", " "]

theorem link_of_mem {text : String} (member : text ∈ links) : Link text := by
  have checks : ∀ text ∈ links,
      isPlain vocabulary text = true ∧ Gapped text ∧ Closed text ∧ text ≠ "" := by
    decide
  obtain ⟨plain, gapped, closed, visible⟩ := checks text member
  exact ⟨.of_isPlain plain, gapped, closed, visible⟩

namespace Plain
variable {first second text : String}

theorem join (plain : Plain vocabulary first) {link : String} (member : link ∈ links)
    (next : Plain vocabulary second) : Plain vocabulary (first ++ link ++ second) := by
  have parts := link_of_mem member
  rw [String.append_assoc]
  apply plain.append
  · exact parts.plain.append next (.inl parts.closed)
  · exact .inr (gapped_append parts.gapped parts.visible)

theorem intercalate {link : String} (member : link ∈ links) {texts : List String}
    (all : ∀ text ∈ texts, Plain vocabulary text) : Plain vocabulary (link.intercalate texts) := by
  induction texts with
  | nil =>
    rw [String.intercalate_nil]
    exact of_isPlain rfl
  | cons first rest ih =>
    have later := ih fun text further => all text (List.mem_cons_of_mem first further)
    cases rest with
    | nil =>
      rw [String.intercalate_singleton]
      exact all first List.mem_cons_self
    | cons next rest =>
      rw [String.intercalate_cons_cons]
      exact (all first List.mem_cons_self).join member later

theorem column (column : Column) : Plain vocabulary column.name :=
  of_isPlain (by cases column <;> decide)

theorem placeholder : Plain vocabulary "?" := of_isPlain (by decide)

theorem group (inner : Plain vocabulary text) : Plain vocabulary ("(" ++ text ++ ")") := by
  have opening : Plain vocabulary "(" := of_isPlain (by decide)
  have closing : Plain vocabulary ")" := of_isPlain (by decide)
  have opened := opening.append inner (.inl (by decide))
  exact opened.append closing (.inr (by decide))

theorem like (escape : Bool) (column : Column) (literal : String) :
    Plain vocabulary (Inlined.like (fun _ => "?") escape column.name literal) := by
  have member : " LIKE " ∈ links := by decide
  have pattern := (Plain.column column).join member placeholder
  apply pattern.append
  · cases escape <;> exact of_isPlain (by decide)
  · cases escape <;> exact .inr (by decide)

theorem condition (escape : Bool) (condition : Condition) :
    Plain vocabulary (Inlined.condition (fun _ => "?") escape condition) := by
  cases condition with
  | inScope scope =>
    have located : Plain vocabulary ("log_file_id = " ++ "?") := of_isPlain (by decide)
    exact located
  | among column values =>
    have comma : ", " ∈ links := by decide
    have member : " IN " ∈ links := by decide
    have items : Plain vocabulary (", ".intercalate (values.map fun _ => "?")) := by
      apply intercalate comma
      intro item listed
      obtain ⟨value, -, rfl⟩ := List.mem_map.mp listed
      exact placeholder
    exact (Plain.column column).join member items.group
  | holds column predicate =>
    cases predicate with
    | single literal => exact like escape column literal
    | anyOf literals =>
      have or : " OR " ∈ links := by decide
      apply group
      apply intercalate or
      intro alternative listed
      obtain ⟨literal, -, rfl⟩ := List.mem_map.mp listed
      exact like escape column literal
  | atLeast column bound =>
    have member : " >= " ∈ links := by decide
    exact (Plain.column column).join member placeholder
  | atMost column bound =>
    have member : " <= " ∈ links := by decide
    exact (Plain.column column).join member placeholder

end Plain

namespace Compiler
variable (compiler : Compiler) (filter : Filter) (scope : Option String)

theorem plain_clause : Plain vocabulary (compiler.clause filter scope) := by
  have conditions : ∀ condition ∈ Inlined.conditions (fun _ => "?") compiler.escapeWildcards filter scope,
      Plain vocabulary condition := by
    rw [← map_condition_conditions]
    intro text member
    obtain ⟨condition, -, rfl⟩ := List.mem_map.mp member
    exact Plain.condition compiler.escapeWildcards condition
  have opening : Link " WHERE " := link_of_mem (by decide)
  have and : " AND " ∈ links := by decide
  unfold clause Inlined.whereClause
  split
  · exact .of_isPlain rfl
  · exact opening.plain.append (.intercalate and conditions) (.inl opening.closed)

theorem gapped_clause : Gapped (compiler.clause filter scope) := by
  rcases compiler.clause_eq filter scope with empty | ⟨conditions, clause⟩
  · rw [empty]
    rfl
  · have opening : Link " WHERE " := link_of_mem (by decide)
    rw [clause]
    exact gapped_append opening.gapped opening.visible

theorem plain_ordering (order : SortOrder) :
    Plain vocabulary (" ORDER BY " ++ order.column.name ++ " " ++ order.direction.keyword) := by
  have opening : Link " ORDER BY " := link_of_mem (by decide)
  have space : " " ∈ links := by decide
  have direction : Plain vocabulary order.direction.keyword :=
    .of_isPlain (by cases order.direction <;> decide)
  exact (opening.plain.append (.column order.column) (.inl opening.closed)).join space direction

theorem gapped_ordering (order : SortOrder) :
    Gapped (" ORDER BY " ++ order.column.name ++ " " ++ order.direction.keyword) := by
  have opening : Link " ORDER BY " := link_of_mem (by decide)
  simp only [String.append_assoc]
  exact gapped_append opening.gapped opening.visible

end Compiler

theorem Head.of_checks {head : String}
    (checks : (beginsWith "SELECT" (trim head.toList) && dropComments head.toList == head.toList &&
      !endsInLine false head.toList && head.toList.getLast?.all isGap &&
      head.toList.all (fun c => decide (c.toNat < 0x80) && c != ';') &&
      (runs isAsciiWord head.toList).all vocabulary.contains) = true) : Head head := by
  simp only [Bool.and_eq_true, beq_iff_eq, Bool.not_eq_true', List.all_eq_true, decide_eq_true_eq,
    bne_iff_ne] at checks
  obtain ⟨⟨⟨⟨⟨selects, uncommented⟩, lineEnded⟩, closed⟩, characters⟩, spoken⟩ := checks
  constructor
  case selects => exact selects
  case uncommented => exact uncommented
  case lineEnded => exact lineEnded
  case closed => exact closed
  case single =>
    intro inside
    exact (characters ';' inside).2 rfl
  case spoken =>
    rw [names_eq_of_ascii fun c member => (characters c member).1]
    intro word member
    exact List.contains_iff_mem.mp (spoken word member)

/-! Heads hold dashes in formats of time and a star where rows are counted, so that each is looked at as
a whole. -/

theorem head_rows : Head "SELECT * FROM " := .of_checks (by decide)

theorem head_count : Head "SELECT COUNT(*) AS total FROM " := .of_checks (by decide)

theorem head_histogram (bucket : Bucket) :
    Head ("SELECT " ++ bucket.expression ++ " AS bucket, COUNT(*) AS hits FROM ") :=
  .of_checks (by cases bucket <;> decide +kernel)

/-- A statement on a table, with nothing but certain words behind the table. -/
inductive Composed (words : List (List Char)) (table : TableName) : String → Prop where
  | parts (head tail : String) (opening : Head head) (plain : Plain words tail) (gapped : Gapped tail) :
      Composed words table (head ++ table.name ++ tail)

namespace Composed
variable {words more : List (List Char)} {table : TableName} {text : String}

theorem mono (composed : Composed words table text) (wider : words ⊆ more) :
    Composed more table text := by
  obtain ⟨head, tail, opening, plain, gapped⟩ := composed
  exact .parts head tail opening (plain.mono wider) gapped

theorem append (composed : Composed words table text) {tail : String} (plain : Plain words tail)
    (gapped : Gapped tail) : Composed words table (text ++ tail) := by
  obtain ⟨head, first, opening, before, apart⟩ := composed
  rw [String.append_assoc]
  apply Composed.parts head _ opening
  · exact before.append plain (.inr gapped)
  · exact apart.append gapped

theorem names_parts (composed : Composed words table text) : ∃ before after, before ⊆ vocabulary ∧
    after ⊆ words ∧ names text.toList = before ++ table.name.toList :: after := by
  obtain ⟨head, tail, opening, plain, gapped⟩ := composed
  obtain ⟨visible, letters⟩ := table.isAsciiWord_toList
  have named : names table.name.toList = [table.name.toList] := by
    apply runs_eq_singleton visible
    intro c member
    rw [isWordChar, letters c member, Bool.true_or]
  refine ⟨names head.toList, names tail.toList, opening.spoken, plain.spoken, ?_⟩
  rw [names_gapped _ gapped, names_closed opening.closed, named, List.append_assoc,
    List.singleton_append]

theorem single (composed : Composed words table text) : ';' ∉ text.toList := by
  obtain ⟨head, tail, opening, plain, gapped⟩ := composed
  rw [String.toList_append, String.toList_append]
  intro inside
  rcases List.mem_append.mp inside with front | behind
  · rcases List.mem_append.mp front with front | named
    · exact opening.single front
    · exact absurd (table.isAsciiWord_toList.2 ';' named) (by decide)
  · exact plain.single behind

/-- Nothing in a statement is taken for a comment. -/
theorem dropComments_eq (composed : Composed words table text) :
    dropComments text.toList = text.toList := by
  obtain ⟨head, tail, opening, plain, gapped⟩ := composed
  have smooth : ∀ c ∈ table.name.toList ++ tail.toList, isSmooth c = true := by
    intro c member
    rcases List.mem_append.mp member with named | behind
    · have letter := table.isAsciiWord_toList.2 c named
      rw [isSmooth_iff]
      refine ⟨?_, ?_, ?_, ?_⟩ <;> (rintro rfl; exact absurd letter (by decide))
    · exact plain.smooth c behind
  rw [String.toList_append, String.toList_append, List.append_assoc, dropComments_append smooth,
    opening.uncommented, opening.lineEnded]
  rfl

theorem opensQuery_trim (composed : Composed words table text) :
    opensQuery (trim text.toList) = true := by
  obtain ⟨head, tail, opening, plain, gapped⟩ := composed
  rw [String.toList_append, String.toList_append, List.append_assoc]
  apply opensQuery_of_beginsWith
  exact beginsWith_of_isPrefix (trim_isPrefix_trim_append _ _) opening.selects

end Composed

namespace Compiler
variable (compiler : Compiler) (filter : Filter) (scope : Option String)

theorem composed_rows (request : SortRequest) :
    Composed vocabulary compiler.table (compiler.rows filter request scope).text := by
  rw [rows_eq]
  apply (Composed.parts _ _ head_rows (compiler.plain_clause filter scope)
    (compiler.gapped_clause filter scope)).append
  · exact plain_ordering _
  · exact gapped_ordering _

theorem composed_count : Composed vocabulary compiler.table (compiler.count filter scope).text := by
  rw [count_eq]
  exact .parts _ _ head_count (compiler.plain_clause filter scope) (compiler.gapped_clause filter scope)

theorem composed_histogram (bucket : Bucket) :
    Composed vocabulary compiler.table (compiler.histogram filter scope bucket).text := by
  rw [histogram_eq]
  apply (Composed.parts _ _ (head_histogram bucket) (compiler.plain_clause filter scope)
    (compiler.gapped_clause filter scope)).append
  · exact .of_isPlain (by decide)
  · decide

def windowWords : List (List Char) := ["LIMIT".toList, "OFFSET".toList]

theorem composed_page {page : Page} {request : SortRequest} {statement : Statement}
    (compiled : compiler.page filter request scope page = .ok statement) :
    Composed (vocabulary ++ windowWords) compiler.table statement.text := by
  obtain ⟨window, -, rfl⟩ := compiler.exists_window_of_page_eq_ok filter scope compiled
  apply ((compiler.composed_rows filter scope request).mono (List.subset_append_left _ _)).append
  · exact .of_isPlain (by decide)
  · decide

end Compiler

end LogSieve.Sql
