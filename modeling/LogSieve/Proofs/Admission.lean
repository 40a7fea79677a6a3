import LogSieve.Command.Run
import LogSieve.Proofs.Letters
import LogSieve.Proofs.StatementWords

/-! Compiled statements under the read-only check. The check and the compiler know nothing of each other;
the compiler's own words are none that the check refuses, so that only a table can bring one in. -/

namespace LogSieve.Sql
open Text

/-- The statements that a compiler makes for a filter and a scope. -/
inductive Compiler.Emits (compiler : Compiler) (filter : Filter) (scope : Option String) :
    Statement → Prop where
  | rows (request : SortRequest) : Emits compiler filter scope (compiler.rows filter request scope)
  | page (request : SortRequest) (page : Page) (statement : Statement)
      (compiled : compiler.page filter request scope page = .ok statement) :
      Emits compiler filter scope statement
  | count : Emits compiler filter scope (compiler.count filter scope)
  | histogram (bucket : Bucket) : Emits compiler filter scope (compiler.histogram filter scope bucket)

namespace TableName
variable (table : TableName)

def isReserved : Bool := forbiddenKeywords.any fun keyword => sameAscii keyword.toList table.name.toList

theorem isWord_name (keyword : String) :
    isWord keyword table.name.toList = sameAscii keyword.toList table.name.toList :=
  isKeyword_lowerAscii table.isAsciiWord_toList.2 keyword.toList

theorem find?_isWord : forbiddenKeywords.find? (isWord · table.name.toList) =
    if table.isReserved then some (upper table.name) else none := by
  obtain ⟨-, letters⟩ := table.isAsciiWord_toList
  have capitals : ∀ keyword ∈ forbiddenKeywords, keyword.toList.map Char.toUpper = keyword.toList := by
    decide
  have raised : String.ofList (table.name.toList.map Char.toUpper) = upper table.name := by
    rw [upper, upperChars_eq_map letters]
  have compared : (fun keyword => isWord keyword table.name.toList) =
      fun keyword => sameAscii keyword.toList table.name.toList := funext table.isWord_name
  have found := find?_sameAscii capitals table.name.toList
  rw [raised] at found
  have reserved : table.isReserved = true ↔ upper table.name ∈ forbiddenKeywords := by
    rw [isReserved, List.any_eq_true, ← List.find?_isSome, found]
    split
    next member => simp [member]
    next absent => simp [absent]
  rw [compared, found]
  exact if_congr reserved.symm rfl rfl

end TableName

namespace Composed
variable {words : List (List Char)} {table : TableName} {text : String}

theorem forbidden?_eq (composed : Composed words table text)
    (allowed : ∀ word ∈ words, forbiddenKeywords.find? (isWord · word) = none) :
    forbidden? text.toList = if table.isReserved then some (upper table.name) else none := by
  have own : ∀ word ∈ vocabulary, forbiddenKeywords.find? (isWord · word) = none := by
    decide
  obtain ⟨before, after, front, behind, parts⟩ := composed.names_parts
  have early : before.findSome? (fun word => forbiddenKeywords.find? (isWord · word)) = none :=
    List.findSome?_eq_none_iff.mpr fun word member => own word (front member)
  have late : after.findSome? (fun word => forbiddenKeywords.find? (isWord · word)) = none :=
    List.findSome?_eq_none_iff.mpr fun word member => allowed word (behind member)
  rw [forbidden?, parts, List.findSome?_append, early, List.findSome?_cons, late,
    table.find?_isWord]
  cases table.isReserved <;> rfl

theorem checkReadOnly_eq (composed : Composed words table text)
    (allowed : ∀ word ∈ words, forbiddenKeywords.find? (isWord · word) = none) :
    checkReadOnly text =
      if table.isReserved then .error (.forbiddenKeyword (upper table.name)) else .ok () := by
  have opens := composed.opensQuery_trim
  have found := composed.forbidden?_eq allowed
  rw [← composed.dropComments_eq] at opens found
  split at found
  next reserved =>
    rw [if_pos reserved]
    exact checkReadOnly_eq_forbiddenKeyword opens found
  next free =>
    rw [if_neg free, checkReadOnly_eq_ok_iff]
    refine ⟨opens, found, ?_⟩
    rw [composed.dropComments_eq]
    apply List.pairwise_of_forall_mem_list
    intro left first right second semicolon
    exact absurd (semicolon ▸ first) composed.single

end Composed

namespace Compiler
variable {compiler : Compiler} {filter : Filter} {scope : Option String} {statement : Statement}

theorem Emits.checkReadOnly_eq (emitted : compiler.Emits filter scope statement) :
    checkReadOnly statement.text = if compiler.table.isReserved
      then .error (.forbiddenKeyword (upper compiler.table.name)) else .ok () := by
  have own : ∀ word ∈ vocabulary ++ windowWords, forbiddenKeywords.find? (isWord · word) = none := by
    decide
  have within : vocabulary ⊆ vocabulary ++ windowWords := List.subset_append_left _ _
  cases emitted with
  | rows request => exact ((compiler.composed_rows filter scope request).mono within).checkReadOnly_eq own
  | page request page statement compiled =>
    exact (compiler.composed_page filter scope compiled).checkReadOnly_eq own
  | count => exact ((compiler.composed_count filter scope).mono within).checkReadOnly_eq own
  | histogram bucket =>
    exact ((compiler.composed_histogram filter scope bucket).mono within).checkReadOnly_eq own

/-- The read-only check lets every compiled statement through, except for tables that are named like a
forbidden keyword: these are refused, and reported in capitals. -/
theorem ofStatement_emitted (emitted : compiler.Emits filter scope statement) (limit : UInt32) :
    Request.ofStatement statement limit = if compiler.table.isReserved
      then .error (.forbiddenKeyword (upper compiler.table.name))
      else .ok { query := statement.text, params := statement.params, limit } := by
  rw [Request.ofStatement, emitted.checkReadOnly_eq]
  split <;> rfl

/-- The method `DELETE` is bound and not written, so that the table alone is refused. -/
theorem ofStatement_emitted_drop :
    Emits ⟨⟨"dRoP", by decide⟩, true, 500, .latestFirst⟩ { method := .ofList ["DELETE"] } (some "; --")
      (histogram ⟨⟨"dRoP", by decide⟩, true, 500, .latestFirst⟩ { method := .ofList ["DELETE"] }
        (some "; --") .minute) ∧
    Request.ofStatement (histogram ⟨⟨"dRoP", by decide⟩, true, 500, .latestFirst⟩
        { method := .ofList ["DELETE"] } (some "; --") .minute) 10 =
      .error (.forbiddenKeyword "DROP") := by
  have emitted : Emits ⟨⟨"dRoP", by decide⟩, true, 500, .latestFirst⟩ { method := .ofList ["DELETE"] }
      (some "; --") _ := .histogram .minute
  exact ⟨emitted, ofStatement_emitted emitted 10⟩

end Compiler

end LogSieve.Sql

namespace LogSieve.Command
open Sql

/-- Whatever the controls ask for, in any mode, comes from the compiler as it is. -/
theorem Controls.statement_emitted {controls : Controls} {profile : Profile} {compiler : Compiler}
    {filter : Filter} {statement : Statement}
    (compiled : controls.statement profile compiler filter = .ok statement) :
    compiler.Emits filter controls.scope statement := by
  unfold Controls.statement at compiled
  split at compiled
  next =>
    obtain rfl := Except.ok.inj compiled
    exact .count
  next =>
    split at compiled
    next =>
      obtain rfl := Except.ok.inj compiled
      exact .histogram _
    next =>
      split at compiled
      next page asked => exact .page _ page statement compiled
      next none =>
        obtain rfl := Except.ok.inj compiled
        exact .rows _

end LogSieve.Command
