import Mathlib.Data.List.Pairwise
import LogSieve.Proofs.Names
import LogSieve.Sql.Request

/-! The verdict of the read-only check as conditions on the text: how it begins, which words it holds
and what stands behind its semicolons. Blanks at the ends of the text have no part in it, and how a
text begins is settled once and for all by what is written first. -/

namespace LogSieve.Sql
open Text

/-- No semicolon has anything but blanks behind it. -/
def Ended (text : List Char) : Prop :=
  text.Pairwise fun left right => left = ';' → isBlank right = true

theorem allBlank_afterSemicolon_iff {text : List Char} :
    allBlank (afterSemicolon text) = true ↔ Ended text := by
  unfold Ended allBlank
  induction text with
  | nil => simp [afterSemicolon]
  | cons c rest ih =>
    rw [List.pairwise_cons]
    by_cases semicolon : c = ';'
    · have after : afterSemicolon (c :: rest) = rest := by simp [afterSemicolon, semicolon]
      rw [after, List.all_eq_true]
      refine ⟨fun blank => ⟨fun right member _ => blank right member, ?_⟩,
        fun ended right member => ended.1 right member semicolon⟩
      exact List.pairwise_of_forall_mem_list fun left _ right member _ => blank right member
    · have after : afterSemicolon (c :: rest) = afterSemicolon rest := by
        simp [afterSemicolon, semicolon]
      simp [after, ih, semicolon]

theorem ended_trim {text : List Char} : Ended (trim text) ↔ Ended text := by
  obtain ⟨front, back, blankFront, blankBack, parts⟩ := exists_trim text
  refine ⟨fun ended => ?_, fun ended => ?_⟩
  · rw [parts]
    have noSemicolon : ∀ c ∈ front, c ≠ ';' := by
      rintro c member rfl
      exact absurd (blankFront _ member) (by decide)
    refine List.pairwise_append.mpr ⟨?_, List.pairwise_append.mpr ⟨ended, ?_, ?_⟩, ?_⟩
    · exact List.pairwise_of_forall_mem_list fun left first _ _ semicolon =>
        absurd semicolon (noSemicolon left first)
    · exact List.pairwise_of_forall_mem_list fun _ _ right second _ => blankBack right second
    · exact fun _ _ right second _ => blankBack right second
    · exact fun left first _ _ semicolon => absurd semicolon (noSemicolon left first)
  · rw [parts] at ended
    exact ended.sublist ((List.sublist_append_left _ _).trans (List.sublist_append_right _ _))

theorem unless_eq_ok {condition : Bool} {error : Error} :
    (unless condition do throw error : Except Error Unit) = .ok () ↔ condition = true := by
  cases condition <;> simp [throw, throwThe, MonadExceptOf.throw, pure, Except.pure]

theorem unless_then_eq_ok {condition : Bool} {error : Error} {next : Unit → Except Error Unit} :
    (if condition then next () else throw error >>= next) = .ok () ↔
      condition = true ∧ next () = .ok () := by
  cases condition <;> simp [throw, throwThe, MonadExceptOf.throw, bind, Except.bind]

theorem forbidden?_eq_none_iff {text : List Char} : forbidden? text = none ↔
    ∀ word ∈ names text, ∀ keyword ∈ forbiddenKeywords, isWord keyword word = false := by
  simp [forbidden?]

theorem checkStatement_eq_ok_iff {statement : List Char} : checkStatement statement = .ok () ↔
    (if beginsWith "WITH" statement then hasWord "SELECT" statement
      else beginsWith "SELECT" statement) = true ∧
    forbidden? statement = none ∧ allBlank (afterSemicolon statement) = true := by
  unfold checkStatement
  cases forbidden? statement with
  | none =>
    have last : (unless allBlank (afterSemicolon statement) do throw .multipleStatements :
        Except Error Unit) = .ok () ↔
        (none : Option String) = none ∧ allBlank (afterSemicolon statement) = true := by
      simpa using unless_eq_ok
    refine Iff.trans ?_ (and_congr_right fun _ => last)
    dsimp only
    split <;> exact unless_then_eq_ok
  | some keyword =>
    have last : (throw (.forbiddenKeyword keyword) : Except Error Unit) = .ok () ↔
        some keyword = none ∧ allBlank (afterSemicolon statement) = true := by
      simp [throw, throwThe, MonadExceptOf.throw]
    refine Iff.trans ?_ (and_congr_right fun _ => last)
    dsimp only
    split <;> exact unless_then_eq_ok

def opensQuery (statement : List Char) : Bool :=
  if beginsWith "WITH" statement then hasWord "SELECT" statement else beginsWith "SELECT" statement

theorem beginsWith_of_isPrefix {keyword : String} {text whole : List Char} (longer : text <+: whole)
    (begins : beginsWith keyword text = true) : beginsWith keyword whole = true := by
  obtain ⟨tail, rfl⟩ := longer
  rw [beginsWith, List.isPrefixOf_iff_prefix] at begins ⊢
  rw [upperChars, List.flatMap_append]
  exact begins.trans (List.prefix_append _ _)

theorem hasWord_trim (keyword : String) (text : List Char) :
    hasWord keyword (trim text) = hasWord keyword text := by
  rw [hasWord, names_trim, hasWord]

theorem forbidden?_append (before : List Char) {after : List Char}
    (apart : beginsInWord after = false) :
    forbidden? (before ++ after) = (forbidden? before).or (forbidden? after) := by
  rw [forbidden?, names_append_apart before apart, List.findSome?_append]
  rfl

theorem forbidden?_trim (text : List Char) : forbidden? (trim text) = forbidden? text := by
  rw [forbidden?, names_trim, forbidden?]

theorem opensQuery_of_beginsWith {statement : List Char}
    (selects : beginsWith "SELECT" statement = true) : opensQuery statement = true := by
  have noTables : ¬ beginsWith "WITH" statement = true := by
    intro withTables
    rw [beginsWith, List.isPrefixOf_iff_prefix] at selects withTables
    exact absurd (List.prefix_of_prefix_length_le withTables selects (by decide)) (by decide)
  rw [opensQuery, if_neg noTables, selects]

/-- More text behind a statement does not change how it begins. -/
theorem opensQuery_append {text tail : List Char}
    (apart : beginsInWord tail = false) (opens : opensQuery (trim text) = true) :
    opensQuery (trim (text ++ tail)) = true := by
  have longer := trim_isPrefix_trim_append text tail
  rw [opensQuery, hasWord_trim] at opens
  by_cases withTables : beginsWith "WITH" (trim text) = true
  · rw [if_pos withTables] at opens
    rw [opensQuery, if_pos (beginsWith_of_isPrefix longer withTables), hasWord_trim, hasWord,
      names_append_apart text apart, List.any_append, Bool.or_eq_true]
    exact .inl opens
  · rw [if_neg withTables] at opens
    exact opensQuery_of_beginsWith (beginsWith_of_isPrefix longer opens)

theorem checkStatement_of_opensQuery {statement : List Char} (opens : opensQuery statement = true) :
    checkStatement statement = (forbidden? statement).elim
      (if allBlank (afterSemicolon statement) then .ok () else .error .multipleStatements)
      fun keyword => .error (.forbiddenKeyword keyword) := by
  unfold opensQuery at opens
  unfold checkStatement
  split at opens
  case' isTrue withTables => rw [if_pos withTables, if_pos opens]
  case' isFalse selectsOnly => rw [if_neg selectsOnly, if_pos opens]
  all_goals
    cases forbidden? statement with
    | none => cases allBlank (afterSemicolon statement) <;> rfl
    | some keyword => rfl

section
variable {text : String}

theorem checkReadOnly_eq_ok_iff : checkReadOnly text = .ok () ↔
    opensQuery (trim (dropComments text.toList)) = true ∧
      forbidden? (dropComments text.toList) = none ∧ Ended (dropComments text.toList) := by
  unfold checkReadOnly
  rw [checkStatement_eq_ok_iff, forbidden?_trim, allBlank_afterSemicolon_iff, ended_trim, opensQuery]

theorem checkReadOnly_eq_forbiddenKeyword {keyword : String}
    (opens : opensQuery (trim (dropComments text.toList)) = true)
    (found : forbidden? (dropComments text.toList) = some keyword) :
    checkReadOnly text = .error (.forbiddenKeyword keyword) := by
  rw [checkReadOnly, checkStatement_of_opensQuery opens, forbidden?_trim, found]
  rfl

theorem checkReadOnly_eq_multipleStatements
    (opens : opensQuery (trim (dropComments text.toList)) = true)
    (absent : forbidden? (dropComments text.toList) = none)
    (more : ¬ Ended (dropComments text.toList)) : checkReadOnly text = .error .multipleStatements := by
  have behind : ¬ allBlank (afterSemicolon (trim (dropComments text.toList))) = true := by
    rwa [allBlank_afterSemicolon_iff, ended_trim]
  rw [checkReadOnly, checkStatement_of_opensQuery opens, forbidden?_trim, absent]
  exact if_neg behind

end

theorem Request.ofStatement_eq_ok_iff {statement : Statement} {limit : UInt32} {request : Request} :
    Request.ofStatement statement limit = .ok request ↔ checkReadOnly statement.text = .ok () ∧
      request = { query := statement.text, params := statement.params, limit } := by
  unfold ofStatement
  cases checkReadOnly statement.text with
  | error error => simp [bind, Except.bind]
  | ok => simp [bind, Except.bind, pure, Except.pure, eq_comm]

end LogSieve.Sql
