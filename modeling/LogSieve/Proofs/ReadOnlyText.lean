import LogSieve.Proofs.CommentStripping
import LogSieve.Proofs.ReadOnlyCheck

/-! What the read-only check is worth. A text that it lets through only reads exactly if taking out
the comments has hidden nothing; comments that keep apart from each other, from literals and from
words hide nothing. -/

namespace LogSieve.Sql
open Text

/-- What the code holds against the check is still there once comments are taken out: forbidden
keywords as whole words, and a semicolon with more than blanks behind it. -/
structure Exposed (text : List Char) : Prop where
  keywords : ∀ word ∈ names (codeOf (scan .code text)), ∀ keyword ∈ forbiddenKeywords,
    isWord keyword word = true → word ∈ names (dropComments text)
  single : allBlank (afterSemicolon (dropComments text)) = true →
    allBlank (afterSemicolon (codeOf (scan .code text))) = true

/-- Words of the code are seen among the characters outside comments, whatever has gone `before` and
whichever blanks stand for comments since. Within a literal, only what follows it counts. -/
def Shown (quoted : Bool) (marks : List Mark) : Prop :=
  ∀ before gap : List Char, (∀ c ∈ gap, isWordChar c = false) →
    joins (endsInWord before) (!gap.isEmpty) marks = false →
    names ((if quoted then [] else before ++ gap) ++ codeOf marks) ⊆ names (before ++ outside marks)

namespace Shown
variable {quoted next : Bool} {marks : List Mark} {c : Char}

theorem nil : Shown quoted [] := by
  intro before gap spaces _
  cases quoted with
  | true => simp [names]
  | false => simp [names_append_spaces before spaces]

theorem comment {region : Region} (isComment : region.isComment = true) (rest : Shown false marks) :
    Shown false (⟨c, region⟩ :: marks) := by
  intro before gap spaces parted
  have hidden : region ≠ .code := by rintro rfl; cases isComment
  have wider : ∀ c ∈ gap ++ [' '], isWordChar c = false := by
    simpa [or_imp, forall_and] using ⟨spaces, isWordChar_eq_false (by decide) (by decide)⟩
  have gapped : (gap ++ [' ']).isEmpty = false := by simp
  rw [joins_comment isComment] at parted
  have seen := rest before (gap ++ [' ']) wider (by simpa [gapped] using parted)
  simpa [hidden, isComment] using seen

theorem plain (plainChar : isWordChar c = false) (rest : Shown next marks) :
    Shown quoted (⟨c, .code⟩ :: marks) := by
  intro before gap spaces parted
  rw [joins_outside rfl, plainChar, Bool.and_false, Bool.false_or] at parted
  have seen := rest [] [] (by simp) parted
  have earlier : names (if quoted then [] else before ++ gap) ⊆ names before := by
    cases quoted with
    | true => simp [names]
    | false => simp [names_append_spaces before spaces]
  simp only [codeOf_cons, outside_cons, Region.isComment_code, Bool.false_eq_true, if_true, if_false]
  rw [names_append_cons _ _ plainChar, names_append_cons _ _ plainChar]
  exact List.append_subset.mpr ⟨List.subset_append_of_subset_left _ earlier,
    List.subset_append_of_subset_right _ (by simpa using seen)⟩

theorem word (wordChar : isWordChar c = true) (rest : Shown false marks) :
    Shown false (⟨c, .code⟩ :: marks) := by
  intro before gap spaces parted
  rw [joins_outside rfl, wordChar, Bool.and_true, Bool.or_eq_false_iff] at parted
  obtain ⟨apart, later⟩ := parted
  by_cases empty : gap = []
  · have seen := rest (before ++ [c]) [] (by simp) (by simpa [endsInWord, wordChar] using later)
    simpa [empty] using seen
  · have seen := rest [c] [] (by simp) (by simpa [endsInWord, wordChar] using later)
    have ended : endsInWord before = false := by simpa [empty] using apart
    simp only [codeOf_cons, outside_cons, Region.isComment_code, Bool.false_eq_true, if_true, if_false]
    rw [names_append_gap before _ empty spaces, names_append_of_not_endsInWord ended]
    exact List.append_subset.mpr ⟨List.subset_append_left _ _,
      List.subset_append_of_subset_right _ (by simpa using seen)⟩

theorem inner (rest : Shown true marks) : Shown true (⟨c, .literal⟩ :: marks) := by
  intro before gap _ parted
  rw [joins_outside rfl, Bool.or_eq_false_iff] at parted
  have seen := rest (before ++ [c]) [] (by simp) (by simpa [endsInWord] using parted.2)
  have space : isWordChar ' ' = false := isWordChar_eq_false (by decide) (by decide)
  have blank := names_append_cons [] (codeOf marks) space
  have none : names [] = [] := rfl
  simp_all

end Shown

theorem shown_scan (region : Region) (text : List Char) :
    Shown (region = .literal) (scan region text) := by
  fun_induction scan region text with
  | case1 region => exact .nil
  | case2 rest ih | case3 rest ih => exact .comment rfl (.comment rfl ih)
  | case7 _ rest _ ih => exact .comment rfl ih
  | case8 rest ih => exact .comment rfl (.comment rfl ih)
  | case9 _ rest _ ih => exact .comment rfl ih
  | case4 rest ih | case6 rest ih | case11 rest _ ih =>
    exact .plain (isWordChar_eq_false (by decide) (by decide)) ih
  | case5 c rest _ _ _ ih =>
    by_cases wordChar : isWordChar c = true
    · exact .word wordChar ih
    · exact .plain (Bool.eq_false_iff.mpr wordChar) ih
  | case10 rest ih => exact .inner (.inner ih)
  | case12 _ rest _ _ ih => exact .inner ih

theorem names_codeOf_subset {text : List Char} (parted : joins false false (scan .code text) = false) :
    names (codeOf (scan .code text)) ⊆ names (outside (scan .code text)) := by
  simpa using shown_scan .code text [] [] (by simp) parted

theorem mem_codeOf {marks : List Mark} {c : Char} (member : c ∈ codeOf marks) :
    c = ' ' ∨ c ∈ outside marks := by
  obtain ⟨mark, among, rfl⟩ := List.mem_map.mp member
  split
  next code =>
    refine .inr (List.mem_map_of_mem (List.mem_filter.mpr ⟨among, ?_⟩))
    simp [code]
  next => exact .inl rfl

theorem ended_codeOf {marks : List Mark} (ended : Ended (outside marks)) : Ended (codeOf marks) := by
  induction marks with
  | nil => exact .nil
  | cons mark rest ih =>
    obtain ⟨c, region⟩ := mark
    rw [outside_cons] at ended
    rw [codeOf_cons]
    refine List.pairwise_cons.mpr ⟨?_, ih ?_⟩
    · intro right member semicolon
      split at semicolon
      next code =>
        rcases mem_codeOf member with rfl | among
        · decide
        · simp only [code, Region.isComment_code, Bool.false_eq_true, if_false] at ended
          exact (List.pairwise_cons.mp ended).1 right among semicolon
      next => exact absurd semicolon (by decide)
    · split at ended
      · exact ended
      · exact (List.pairwise_cons.mp ended).2

theorem Straight.exposed {text : List Char} (straight : Straight text) : Exposed text := by
  obtain ⟨tail, slash, stripped⟩ := dropComments_scan straight.unnested
  constructor
  · intro word member _ _ _
    rw [stripped]
    have seen := names_codeOf_subset straight.parted member
    rcases slash with rfl | ⟨after, rfl⟩
    · simpa using seen
    · rw [names_append_cons _ _ (isWordChar_eq_false (by decide) (by decide))]
      exact List.mem_append_left _ seen
  · rw [allBlank_afterSemicolon_iff, allBlank_afterSemicolon_iff, stripped]
    exact fun ended => ended_codeOf (ended.sublist (List.sublist_append_left _ _))

/-- A text that the check lets through only reads exactly if stripping has hidden none of its code,
and it hides none of a text whose comments keep apart. -/
theorem onlyReads_iff_exposed {text : String} (accepted : checkReadOnly text = .ok ()) :
    (OnlyReads text.toList ↔ Exposed text.toList) ∧ (Straight text.toList → OnlyReads text.toList) := by
  obtain ⟨-, absent, ended⟩ := checkStatement_eq_ok_iff.mp accepted
  rw [forbidden?_eq_none_iff, names_trim] at absent
  rw [allBlank_afterSemicolon_iff, ended_trim, ← allBlank_afterSemicolon_iff] at ended
  have reads (exposed : Exposed text.toList) : OnlyReads text.toList :=
    { keywords := fun word member keyword forbidden => by
        by_contra isForbidden
        rw [Bool.not_eq_false] at isForbidden
        have seen := exposed.keywords word member keyword forbidden isForbidden
        simp [absent word seen keyword forbidden] at isForbidden
      single := exposed.single ended }
  refine ⟨⟨fun only => ⟨fun word member keyword forbidden isForbidden => ?_, fun _ => only.single⟩,
    reads⟩, fun straight => reads straight.exposed⟩
  simp [only.keywords word member keyword forbidden] at isForbidden

theorem onlyReads_commented :
    checkReadOnly "SELECT 'it''s'/* ; DROP */, 1 -- DELETE\nFROM logs; /* end */ --" = .ok () ∧
      Straight "SELECT 'it''s'/* ; DROP */, 1 -- DELETE\nFROM logs; /* end */ --".toList ∧
      OnlyReads "SELECT 'it''s'/* ; DROP */, 1 -- DELETE\nFROM logs; /* end */ --".toList := by
  have accepted : checkReadOnly "SELECT 'it''s'/* ; DROP */, 1 -- DELETE\nFROM logs; /* end */ --" =
      .ok () := by decide +kernel
  have straight :
      Straight "SELECT 'it''s'/* ; DROP */, 1 -- DELETE\nFROM logs; /* end */ --".toList := by
    decide +kernel
  exact ⟨accepted, straight, (onlyReads_iff_exposed accepted).2 straight⟩

/-- A line comment that begins inside a block comment hides the rest of its line. -/
theorem not_onlyReads_hidden :
    checkReadOnly "SELECT 1 /* -- */ ; DROP TABLE t" = .ok () ∧
      ¬ OnlyReads "SELECT 1 /* -- */ ; DROP TABLE t".toList := by
  constructor
  · decide +kernel
  · decide +kernel

/-- Literals and words hide code as well as block comments do. -/
example : checkReadOnly "SELECT '--'; DROP TABLE t" = .ok () ∧
    ¬ OnlyReads "SELECT '--'; DROP TABLE t".toList := by decide +kernel

example : checkReadOnly "WITH a AS (SELECT 1) DELETE/**/FROM t" = .ok () ∧
    ¬ OnlyReads "WITH a AS (SELECT 1) DELETE/**/FROM t".toList := by decide +kernel

end LogSieve.Sql
