import LogSieve.Proofs.CappedQuery

/-! Whether a row cap stands where the store reads it. Comments are found in one reading from left to
right, to which quotes mean nothing. A query keeps the cap that it has in its code; a cap is written
behind it only if the word is nowhere in it, and is lost there if a comment is still open. -/

namespace LogSieve.Sql
open Text

inductive CommentKind where
  | line
  | block
  deriving DecidableEq

/-- The text with blanks in place of its comments; `within` is the comment that it begins in. A line
break ends a line comment and is no part of it. -/
def uncommented : (within : Option CommentKind) → List Char → List Char
  | _, [] => []
  | none, '-' :: '-' :: rest => ' ' :: ' ' :: uncommented (some .line) rest
  | none, '/' :: '*' :: rest => ' ' :: ' ' :: uncommented (some .block) rest
  | none, c :: rest => c :: uncommented none rest
  | some .line, '\n' :: rest => '\n' :: uncommented none rest
  | some .line, _ :: rest => ' ' :: uncommented (some .line) rest
  | some .block, '*' :: '/' :: rest => ' ' :: ' ' :: uncommented none rest
  | some .block, _ :: rest => ' ' :: uncommented (some .block) rest

/-- The comment that the same reading leaves open at the end. -/
def leftOpen : (within : Option CommentKind) → List Char → Option CommentKind
  | within, [] => within
  | none, '-' :: '-' :: rest => leftOpen (some .line) rest
  | none, '/' :: '*' :: rest => leftOpen (some .block) rest
  | none, _ :: rest => leftOpen none rest
  | some .line, '\n' :: rest => leftOpen none rest
  | some .line, _ :: rest => leftOpen (some .line) rest
  | some .block, '*' :: '/' :: rest => leftOpen none rest
  | some .block, _ :: rest => leftOpen (some .block) rest

/-- The character begins no comment in code, and does not end the comment that it stands in. -/
def Quiet (within : Option CommentKind) (c : Char) (rest : List Char) : Prop :=
  match within with
  | none => (∀ after, c = '-' → rest = '-' :: after → False) ∧
      ∀ after, c = '/' → rest = '*' :: after → False
  | some .line => c ≠ '\n'
  | some .block => ∀ after, c = '*' → rest = '/' :: after → False

section
variable {within : Option CommentKind} {c : Char} {rest : List Char}

theorem uncommented_quiet (quiet : Quiet within c rest) : uncommented within (c :: rest) =
    (if within = none then c else ' ') :: uncommented within rest := by
  match within with
  | none => exact uncommented.eq_4 c rest quiet.1 quiet.2
  | some .line => exact uncommented.eq_6 c rest quiet
  | some .block => exact uncommented.eq_8 c rest quiet

theorem leftOpen_quiet (quiet : Quiet within c rest) :
    leftOpen within (c :: rest) = leftOpen within rest := by
  match within with
  | none => exact leftOpen.eq_4 c rest quiet.1 quiet.2
  | some .line => exact leftOpen.eq_6 c rest quiet
  | some .block => exact leftOpen.eq_8 c rest quiet

theorem quiet_of_isSmooth (smooth : isSmooth c = true) : Quiet within c rest := by
  obtain ⟨noDash, noSlash, noStar, noBreak⟩ := isSmooth_iff.mp smooth
  match within with
  | none => exact ⟨fun _ dash _ => noDash dash, fun _ slash _ => noSlash slash⟩
  | some .line => exact noBreak
  | some .block => exact fun _ star _ => noStar star

theorem Quiet.append {tail : List Char} (quiet : Quiet within c rest)
    (smooth : ∀ c ∈ tail, isSmooth c = true) : Quiet within c (rest ++ tail) := by
  match within with
  | none =>
    exact ⟨not_pair_append quiet.1 (head?_ne_of_smooth smooth rfl),
      not_pair_append quiet.2 (head?_ne_of_smooth smooth rfl)⟩
  | some .line => exact quiet
  | some .block => exact not_pair_append quiet (head?_ne_of_smooth smooth rfl)

end

section
variable {tail : List Char} (smooth : ∀ c ∈ tail, isSmooth c = true)
include smooth

theorem uncommented_smooth (within : Option CommentKind) :
    uncommented within tail = if within = none then tail else tail.map fun _ => ' ' := by
  induction tail with
  | nil => cases within <;> rfl
  | cons c rest ih =>
    have left := ih fun d member => smooth d (List.mem_cons_of_mem c member)
    rw [uncommented_quiet (quiet_of_isSmooth (smooth c List.mem_cons_self)), left]
    cases within <;> rfl

theorem uncommented_append (within : Option CommentKind) (text : List Char) :
    uncommented within (text ++ tail) =
      uncommented within text ++ uncommented (leftOpen within text) tail := by
  have step {within : Option CommentKind} {c : Char} {rest : List Char} (quiet : Quiet within c rest)
      (ih : uncommented within (rest ++ tail) =
        uncommented within rest ++ uncommented (leftOpen within rest) tail) :
      uncommented within (c :: rest ++ tail) =
        uncommented within (c :: rest) ++ uncommented (leftOpen within rest) tail := by
    rw [List.cons_append, uncommented_quiet (quiet.append smooth), uncommented_quiet quiet, ih,
      List.cons_append]
  fun_induction leftOpen within text with
  | case1 within => cases within <;> rfl
  | case2 rest ih | case3 rest ih | case7 rest ih => exact congrArg (' ' :: ' ' :: ·) ih
  | case4 c rest notLine notBlock ih => exact step ⟨notLine, notBlock⟩ ih
  | case5 rest ih => exact congrArg ('\n' :: ·) ih
  | case6 c rest sameLine ih => exact step sameLine ih
  | case8 c rest stillOpen ih => exact step stillOpen ih

end

private theorem names_cons {c : Char} (plain : isWordChar c = false) (rest : List Char) :
    names (c :: rest) = names rest :=
  names_append_cons [] rest plain

private theorem names_parted {prior before seen rest : List Char} {c d : Char}
    (first : isWordChar c = false) (second : isWordChar d = false)
    (earlier : names prior ⊆ names before) (later : names seen ⊆ names rest) :
    names (prior ++ ' ' :: ' ' :: seen) ⊆ names (before ++ c :: d :: rest) := by
  have blank : isWordChar ' ' = false := isWordChar_eq_false (by decide) (by decide)
  rw [names_append_cons _ _ blank, names_cons blank, names_append_cons _ _ first, names_cons second]
  exact List.append_subset.mpr ⟨List.subset_append_of_subset_left _ earlier,
    List.subset_append_of_subset_right _ later⟩

/-- Words outside comments are words of the text, whatever has gone `before`. A text that begins within
a comment has none of them where it begins, so that `before` counts for nothing there. -/
theorem names_uncommented (within : Option CommentKind) (text before : List Char) :
    names ((if within = none then before else []) ++ uncommented within text) ⊆
      names (before ++ text) := by
  have blank : isWordChar ' ' = false := isWordChar_eq_false (by decide) (by decide)
  have newline : isWordChar '\n' = false := isWordChar_eq_false (by decide) (by decide)
  have dash : isWordChar '-' = false := isWordChar_eq_false (by decide) (by decide)
  have slash : isWordChar '/' = false := isWordChar_eq_false (by decide) (by decide)
  have star : isWordChar '*' = false := isWordChar_eq_false (by decide) (by decide)
  fun_induction uncommented within text generalizing before with
  | case1 within => cases within <;> simp [names]
  | case2 rest ih => exact names_parted dash dash (List.Subset.refl _) (by simpa using ih [])
  | case3 rest ih => exact names_parted slash star (List.Subset.refl _) (by simpa using ih [])
  | case7 rest ih => exact names_parted star slash (List.nil_subset _) (by simpa using ih [])
  | case4 c rest notLine notBlock ih => simpa using ih (before ++ [c])
  | case5 rest ih =>
    have later : names (uncommented none rest) ⊆ names rest := by simpa using ih []
    rw [if_neg (by simp), List.nil_append, names_cons newline, names_append_cons _ _ newline]
    exact List.subset_append_of_subset_right _ later
  | case6 c rest sameLine ih | case8 c rest stillOpen ih =>
    rw [if_neg (by simp), List.nil_append, names_cons blank]
    simpa using ih (before ++ [c])

theorem uncommented_of_unmarked {text : List Char} (noLine : ¬ ['-', '-'] <:+: text)
    (noBlock : ¬ ['/', '*'] <:+: text) :
    uncommented none text = text ∧ leftOpen none text = none := by
  induction text with
  | nil => exact ⟨rfl, rfl⟩
  | cons c rest ih =>
    have single {left right : Char} (absent : ¬ [left, right] <:+: c :: rest) (after : List Char)
        (first : c = left) (next : rest = right :: after) : False := by
      subst first next
      exact absent (List.prefix_append [c, right] after).isInfix
    obtain ⟨kept, closed⟩ := ih (fun inside => noLine (List.infix_cons inside))
      fun inside => noBlock (List.infix_cons inside)
    have quiet : Quiet none c rest := ⟨single noLine, single noBlock⟩
    rw [uncommented_quiet quiet, kept, leftOpen_quiet quiet]
    exact ⟨rfl, closed⟩

/-- Whether a query has a row cap in its code. -/
def isCapped (query : List Char) : Bool := hasWord "LIMIT" (uncommented none query)

theorem hasWord_of_isCapped {query : List Char} (capped : isCapped query = true) :
    hasWord "LIMIT" query = true := by
  obtain ⟨word, member, isLimit⟩ := List.any_eq_true.mp capped
  have seen : names (uncommented none query) ⊆ names query := by
    simpa using names_uncommented none query []
  exact List.any_eq_true.mpr ⟨word, seen member, isLimit⟩

namespace Request

/-- The words of a cap are seen behind a text that leaves no comment open, and none of them otherwise. -/
theorem names_uncommented_append_cap (text : List Char) (limit : UInt32) :
    names (uncommented none (text ++ (cap limit).toList)) = names (uncommented none text) ++
      if leftOpen none text = none then ["LIMIT".toList, Nat.toDigits 10 limit.toNat] else [] := by
  have smooth (c : Char) (member : c ∈ (cap limit).toList) : isSmooth c = true :=
    isSmooth_of_mem_cap member
  rw [uncommented_append smooth, uncommented_smooth smooth]
  split
  · rw [names_append_apart _ (cap_apart limit), names_cap]
  · rw [List.append_nil]
    refine names_append_spaces _ fun c member => ?_
    obtain ⟨_, _, rfl⟩ := List.mem_map.mp member
    exact isWordChar_eq_false (by decide) (by decide)

theorem isCapped_append_cap {query : List Char} (absent : hasWord "LIMIT" query = false)
    (limit : UInt32) :
    isCapped (query ++ (cap limit).toList) = true ↔ leftOpen none query = none := by
  have bare : (names (uncommented none query)).any (isWord "LIMIT") = false := by
    rw [Bool.eq_false_iff]
    intro capped
    rw [hasWord_of_isCapped capped] at absent
    cases absent
  have limitWord : isWord "LIMIT" "LIMIT".toList = true := by decide
  rw [isCapped, hasWord, names_uncommented_append_cap, List.any_append, bare, Bool.false_or]
  split
  next closed =>
    rw [List.any_cons, limitWord]
    simp [closed]
  next within => simp [within]

/-- With its row cap, a query is capped exactly if it was so before, or if the word is nowhere in it and
no comment of it is open at the end. A query without comments is always capped then. -/
theorem isCapped_cappedQuery_iff (request : Request) :
    (isCapped request.cappedQuery.toList = true ↔ isCapped request.query.toList = true ∨
      hasWord "LIMIT" request.query.toList = false ∧ leftOpen none request.query.toList = none) ∧
    (¬ ['-', '-'] <:+: request.query.toList → ¬ ['/', '*'] <:+: request.query.toList →
      isCapped request.cappedQuery.toList = true) := by
  rw [cappedQuery_eq]
  by_cases word : hasWord "LIMIT" request.query.toList = true
  · rw [if_pos word]
    refine ⟨by simp [word], fun noLine noBlock => ?_⟩
    rwa [isCapped, (uncommented_of_unmarked noLine noBlock).1]
  · have absent : hasWord "LIMIT" request.query.toList = false := Bool.eq_false_iff.mpr word
    have bare : ¬ isCapped request.query.toList = true := fun capped => word (hasWord_of_isCapped capped)
    rw [if_neg word, String.toList_append, isCapped_append_cap absent]
    refine ⟨by simp [absent, bare], fun noLine noBlock => ?_⟩
    exact (uncommented_of_unmarked noLine noBlock).2

theorem isCapped_cappedQuery_uncommented :
    ¬ ['-', '-'] <:+: "SELECT limits FROM t".toList ∧ ¬ ['/', '*'] <:+: "SELECT limits FROM t".toList ∧
      isCapped (cappedQuery ⟨"SELECT limits FROM t", [], 10⟩).toList = true := by
  have noLine : ¬ ['-', '-'] <:+: "SELECT limits FROM t".toList := by decide
  have noBlock : ¬ ['/', '*'] <:+: "SELECT limits FROM t".toList := by decide
  exact ⟨noLine, noBlock, (isCapped_cappedQuery_iff ⟨"SELECT limits FROM t", [], 10⟩).2 noLine noBlock⟩

/-- The word in a comment keeps a cap from being written, though it caps nothing. -/
theorem not_isCapped_commented :
    ofStatement ⟨"SELECT 1 /* LIMIT */", []⟩ 10 = .ok ⟨"SELECT 1 /* LIMIT */", [], 10⟩ ∧
      isCapped (cappedQuery ⟨"SELECT 1 /* LIMIT */", [], 10⟩).toList = false := by
  constructor
  · decide +kernel
  · decide +kernel

/-- A comment that is still open takes the cap that is written. -/
example : checkReadOnly "SELECT 1 --" = .ok () ∧
    isCapped (cappedQuery ⟨"SELECT 1 --", [], 10⟩).toList = false := by decide +kernel

end Request

end LogSieve.Sql
