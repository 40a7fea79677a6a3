import Mathlib.Logic.Relation
import LogSieve.Proofs.ReadOnlyCheck
import LogSieve.Proofs.Recasing

/-! What the read-only check does not look at. The case of letters, blanks at the ends and comments of
their own in front of a statement or behind it have no part in the verdict: the same texts are let through,
and the others are refused for the same reason. Comments that a text leaves open itself are no exception,
since what is added stands on lines of its own or is closed before the text begins. -/

namespace LogSieve.Sql
open Text

/-- One change in how a text looks. Behind a text, a comment needs a line of its own; in front of it, a
block comment may hold anything but its own end and the beginning of a line comment. -/
inductive Restyled (text : String) : String → Prop where
  | recased {other : String} (same : sameAscii text.toList other.toList = true) : Restyled text other
  | blanksBefore {blanks : String} (blank : allBlank blanks.toList = true) :
    Restyled text (blanks ++ text)
  | blanksBehind {blanks : String} (blank : allBlank blanks.toList = true) :
    Restyled text (text ++ blanks)
  | lineBefore {note : String} (sameLine : '\n' ∉ note.toList) :
    Restyled text ("--" ++ note ++ "\n" ++ text)
  | lineBehind {note : String} (sameLine : '\n' ∉ note.toList) :
    Restyled text (text ++ "\n--" ++ note)
  | blockBefore {note : String} (unclosed : ¬ "*/".toList <:+: note.toList)
    (noLine : ¬ "--".toList <:+: note.toList) : Restyled text ("/*" ++ note ++ "*/" ++ text)

theorem isBlank_of_allBlank {text : List Char} (blank : allBlank text = true) :
    ∀ c ∈ text, isBlank c = true :=
  List.all_eq_true.mp blank

theorem not_mem_of_allBlank {text : List Char} (blank : allBlank text = true) {mark : Char}
    (visible : isBlank mark = false) : mark ∉ text := by
  intro inside
  rw [isBlank_of_allBlank blank mark inside] at visible
  cases visible

theorem dropComments_blanks_append {blanks : List Char} (blank : allBlank blanks = true)
    (text : List Char) : dropComments (blanks ++ text) = blanks ++ dropComments text := by
  rw [dropComments, dropLineComments_unmarked_append (not_mem_of_allBlank blank (by decide)),
    dropBlockComments_unmarked_append (not_mem_of_allBlank blank (by decide)), dropComments]

theorem dropComments_line_append {note : List Char} (sameLine : '\n' ∉ note) (text : List Char) :
    dropComments ('-' :: '-' :: note ++ '\n' :: text) = '\n' :: dropComments text := by
  have first : dropLineComments false ('-' :: '-' :: note) = [] := dropLineComments_note sameLine
  have lines : dropLineComments false ('-' :: '-' :: note ++ '\n' :: text) =
      '\n' :: dropLineComments false text := by
    rw [dropLineComments_append (by simp), first]
    rfl
  rw [dropComments, lines, dropBlockComments_cons (by simp), dropComments]

/-- Behind a text, whatever line comments leave blank adds blanks and nothing else. -/
theorem exists_dropComments_append {tail : List Char} (apart : tail.head? ≠ some '-')
    (hidden : ∀ inside, allBlank (dropLineComments inside tail) = true) (text : List Char) :
    ∃ back, allBlank back = true ∧ dropComments (text ++ tail) = dropComments text ++ back := by
  have blank := hidden (endsInLine false text)
  refine ⟨dropLineComments (endsInLine false text) tail, blank, ?_⟩
  rw [dropComments, dropLineComments_append apart]
  exact dropBlockComments_append (not_mem_of_allBlank blank (by decide))
    (not_mem_of_allBlank blank (by decide)) (by simp)

theorem closes_of_infix {text : List Char} (present : ['*', '/'] <:+: text) : closes text = true := by
  fun_induction closes text with
  | case1 => simp at present
  | case2 => rfl
  | case3 c rest stillOpen ih =>
    rcases List.infix_cons_iff.mp present with ⟨after, whole⟩ | later
    · obtain ⟨rfl, next⟩ := List.cons.inj whole
      exact absurd next.symm (stillOpen after rfl)
    · exact ih later

theorem dropBlockComments_closed {note : List Char} (unclosed : ¬ ['*', '/'] <:+: note)
    (text : List Char) :
    dropBlockComments true (note ++ '*' :: '/' :: text) = dropBlockComments false text := by
  induction note with
  | nil => rfl
  | cons c rest ih =>
    have stillOpen (after : List Char) (first : c = '*') (next : rest = '/' :: after) : False := by
      subst first next
      exact unclosed (List.prefix_append ['*', '/'] after).isInfix
    rw [List.cons_append, dropBlockComments_inside (not_pair_append stillOpen (by simp)),
      ih fun inside => unclosed (List.infix_cons inside)]

theorem dropComments_block_append {note : List Char} (unclosed : ¬ ['*', '/'] <:+: note)
    (noLine : ¬ ['-', '-'] <:+: note) (text : List Char) :
    dropComments ('/' :: '*' :: note ++ '*' :: '/' :: text) = dropComments text := by
  have outside : endsInLine false note = false := by
    rw [Bool.eq_false_iff, ne_eq, endsInLine_eq_true_iff]
    rintro (⟨before, comment, rfl, -⟩ | ⟨within, -⟩)
    · exact noLine ⟨before, comment, by simp⟩
    · cases within
  have lines : dropLineComments false (note ++ '*' :: '/' :: text) =
      note ++ '*' :: '/' :: dropLineComments false text := by
    rw [dropLineComments_append (by simp), dropLineComments_eq_self noLine, outside]
    rfl
  have opened : dropLineComments false ('/' :: '*' :: note ++ '*' :: '/' :: text) =
      '/' :: '*' :: (note ++ '*' :: '/' :: dropLineComments false text) := by
    rw [List.cons_append, List.cons_append, dropLineComments_cons (by simp),
      dropLineComments_cons (by simp), lines]
  have closing : closes (note ++ '*' :: '/' :: dropLineComments false text) = true :=
    closes_of_infix ⟨note, dropLineComments false text, by simp⟩
  rw [dropComments, opened, dropBlockComments, if_neg (by simp), if_pos closing,
    dropBlockComments_closed unclosed, dropComments]

theorem checkReadOnly_eq_of_blanks {text other : String} (front back : List Char)
    (blankFront : allBlank front = true) (blankBack : allBlank back = true)
    (stripped : dropComments other.toList = front ++ (dropComments text.toList ++ back)) :
    checkReadOnly other = checkReadOnly text := by
  rw [checkReadOnly, stripped, trim_of_blanks (isBlank_of_allBlank blankFront)
    (isBlank_of_allBlank blankBack), checkReadOnly]

theorem Restyled.checkReadOnly_eq {text other : String} (restyled : Restyled text other) :
    checkReadOnly other = checkReadOnly text := by
  cases restyled with
  | recased same => exact checkReadOnly_eq_of_sameAscii same
  | @blanksBefore blanks blank =>
    refine checkReadOnly_eq_of_blanks blanks.toList [] blank rfl ?_
    rw [String.toList_append, dropComments_blanks_append blank, List.append_nil]
  | @blanksBehind blanks blank =>
    have noDash : '-' ∉ blanks.toList := not_mem_of_allBlank blank (by decide)
    have apart : blanks.toList.head? ≠ some '-' := fun found => noDash (List.mem_of_head? found)
    have hidden (inside : Bool) : allBlank (dropLineComments inside blanks.toList) = true :=
      List.all_eq_true.mpr fun c member =>
        isBlank_of_allBlank blank c ((dropLineComments_sublist inside _).subset member)
    obtain ⟨back, blankBack, stripped⟩ := exists_dropComments_append apart hidden text.toList
    refine checkReadOnly_eq_of_blanks [] back rfl blankBack ?_
    rw [String.toList_append, stripped, List.nil_append]
  | @lineBefore note sameLine =>
    refine checkReadOnly_eq_of_blanks ['\n'] [] (by decide) rfl ?_
    simpa using dropComments_line_append sameLine text.toList
  | @lineBehind note sameLine =>
    have hidden (inside : Bool) :
        allBlank (dropLineComments inside ('\n' :: '-' :: '-' :: note.toList)) = true := by
      have rest : dropLineComments false ('-' :: '-' :: note.toList) = [] :=
        dropLineComments_note sameLine
      have lineBreak : dropLineComments inside ('\n' :: '-' :: '-' :: note.toList) =
          '\n' :: dropLineComments false ('-' :: '-' :: note.toList) := rfl
      rw [lineBreak, rest]
      decide
    obtain ⟨back, blankBack, stripped⟩ := exists_dropComments_append (by simp) hidden text.toList
    refine checkReadOnly_eq_of_blanks [] back rfl blankBack ?_
    simpa using stripped
  | @blockBefore note unclosed noLine =>
    refine checkReadOnly_eq_of_blanks [] [] rfl rfl ?_
    simpa using dropComments_block_append unclosed noLine text.toList

/-- Any number of changes, made or undone one after the other, keep the verdict: whether a text is let
through, and if not, for which reason and which keyword. -/
theorem checkReadOnly_eq_of_restyled {text other : String}
    (restyled : Relation.EqvGen Restyled text other) : checkReadOnly other = checkReadOnly text := by
  induction restyled with
  | rel _ _ change => exact change.checkReadOnly_eq
  | refl _ => rfl
  | symm _ _ _ same => exact same.symm
  | trans _ _ _ _ _ first second => exact second.trans first

/-- A text that leaves a block comment open is refused for the same keyword in other letters, behind a
closed comment and in front of another. -/
theorem checkReadOnly_eq_of_restyled_unclosed :
    Relation.EqvGen Restyled "select 1; drop table t /* --"
        "/* /* ; */SELECT 1; DROP table T /* --\n-- */ " ∧
      checkReadOnly "/* /* ; */SELECT 1; DROP table T /* --\n-- */ " =
        checkReadOnly "select 1; drop table t /* --" := by
  have recased : Restyled "select 1; drop table t /* --" "SELECT 1; DROP table T /* --" :=
    .recased (by decide)
  have followed : Restyled "SELECT 1; DROP table T /* --" "SELECT 1; DROP table T /* --\n-- */ " :=
    @Restyled.lineBehind _ " */ " (by decide)
  have preceded : Restyled "SELECT 1; DROP table T /* --\n-- */ "
      "/* /* ; */SELECT 1; DROP table T /* --\n-- */ " :=
    @Restyled.blockBefore _ " /* ; " (by decide) (by decide)
  have restyled : Relation.EqvGen Restyled "select 1; drop table t /* --"
      "/* /* ; */SELECT 1; DROP table T /* --\n-- */ " :=
    .trans _ _ _ (.rel _ _ recased) (.trans _ _ _ (.rel _ _ followed) (.rel _ _ preceded))
  exact ⟨restyled, checkReadOnly_eq_of_restyled restyled⟩

end LogSieve.Sql
