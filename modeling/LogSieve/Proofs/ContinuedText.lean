import LogSieve.Proofs.CommentStripping

/-! Texts that go on behind their end. What is written behind a text stays when comments are taken
out, unless the last line has a `--` in it, be that in a block comment, in a literal or alone: then it
goes with that line. Block comments hide nothing of it, since one without an end stays itself. -/

namespace LogSieve.Sql

/-- Characters that no comment begins or ends with. -/
def isSmooth (c : Char) : Bool := c != '-' && c != '/' && c != '*' && c != '\n'

theorem isSmooth_iff {c : Char} :
    isSmooth c = true ↔ c ≠ '-' ∧ c ≠ '/' ∧ c ≠ '*' ∧ c ≠ '\n' := by
  simp [isSmooth, and_assoc]

/-- Whether a line comment is left open, where comments of no other kind are looked for. -/
def endsInLine : Bool → List Char → Bool
  | inside, [] => inside
  | _, '\n' :: rest => endsInLine false rest
  | false, '-' :: '-' :: rest => endsInLine true rest
  | inside, _ :: rest => endsInLine inside rest

/-- The last line holds `--`. -/
def LineOpen (text : List Char) : Prop :=
  ∃ before comment, text = before ++ '-' :: '-' :: comment ∧ '\n' ∉ comment

theorem not_pair_append {tail rest : List Char} {c left right : Char}
    (single : ∀ after, c = left → rest = right :: after → False) (apart : tail.head? ≠ some right)
    (after : List Char) (first : c = left) (next : rest ++ tail = right :: after) : False := by
  cases rest with
  | nil =>
    rw [List.nil_append] at next
    rw [next] at apart
    exact apart rfl
  | cons d more =>
    rw [List.cons_append, List.cons_eq_cons] at next
    exact single more first (by rw [next.1])

theorem dropLineComments_append {tail : List Char} (apart : tail.head? ≠ some '-') (inside : Bool)
    (text : List Char) : dropLineComments inside (text ++ tail) =
      dropLineComments inside text ++ dropLineComments (endsInLine inside text) tail := by
  fun_induction endsInLine inside text with
  | case1 inside => rfl
  | case2 inside rest ih => exact congrArg ('\n' :: ·) ih
  | case3 rest ih => exact ih
  | case4 inside c rest sameLine single ih =>
    cases inside with
    | true =>
      rw [List.cons_append, dropLineComments_inside _ sameLine, dropLineComments_inside _ sameLine, ih]
    | false =>
      have alone (after : List Char) : c = '-' → rest = '-' :: after → False := single after rfl
      rw [List.cons_append, dropLineComments_cons (not_pair_append alone apart), ih,
        dropLineComments_cons alone, List.cons_append]

theorem dropLineComments_eq_self {text : List Char} (noLine : ¬ ['-', '-'] <:+: text) :
    dropLineComments false text = text := by
  induction text with
  | nil => rfl
  | cons c rest ih =>
    have single (after : List Char) (first : c = '-') (next : rest = '-' :: after) : False := by
      subst first next
      exact noLine (List.prefix_append ['-', '-'] after).isInfix
    rw [dropLineComments_cons single, ih fun inside => noLine (List.infix_cons inside)]

theorem dropLineComments_note {note : List Char} (sameLine : '\n' ∉ note) :
    dropLineComments true note = [] := by
  induction note with
  | nil => rfl
  | cons c rest ih =>
    have visible : c ≠ '\n' := (List.ne_of_not_mem_cons sameLine).symm
    rw [dropLineComments_inside rest visible, ih (List.not_mem_of_not_mem_cons sameLine)]

theorem dropLineComments_unmarked_append {front : List Char} (noDash : '-' ∉ front)
    (text : List Char) :
    dropLineComments false (front ++ text) = front ++ dropLineComments false text := by
  induction front with
  | nil => rfl
  | cons c rest ih =>
    have other : '-' ≠ c := List.ne_of_not_mem_cons noDash
    rw [List.cons_append, dropLineComments_cons fun _ dash _ => other dash.symm,
      ih (List.not_mem_of_not_mem_cons noDash), List.cons_append]

theorem dropBlockComments_unmarked_append {front : List Char} (noSlash : '/' ∉ front)
    (text : List Char) :
    dropBlockComments false (front ++ text) = front ++ dropBlockComments false text := by
  induction front with
  | nil => rfl
  | cons c rest ih =>
    have other : '/' ≠ c := List.ne_of_not_mem_cons noSlash
    rw [List.cons_append, dropBlockComments_cons fun _ slash _ => other slash.symm,
      ih (List.not_mem_of_not_mem_cons noSlash), List.cons_append]

section
variable {tail : List Char} (noSlash : '/' ∉ tail) (noStar : '*' ∉ tail)

include noStar in
theorem closes_unmarked : closes tail = false := by
  induction tail with
  | nil => rfl
  | cons c rest ih =>
    have other : '*' ≠ c := List.ne_of_not_mem_cons noStar
    rw [closes.eq_3 _ _ fun _ star _ => other star.symm]
    exact ih (List.not_mem_of_not_mem_cons noStar)

include noSlash noStar

theorem closes_append (text : List Char) : closes (text ++ tail) = closes text := by
  have apart : tail.head? ≠ some '/' := fun found => noSlash (List.mem_of_head? found)
  fun_induction closes text with
  | case1 => exact closes_unmarked noStar
  | case2 => rfl
  | case3 c rest open_ ih =>
    rw [List.cons_append, closes.eq_3 _ _ (not_pair_append open_ apart), ih]

/-- Without marks of block comments, a tail is left alone by a text that leaves no comment half read. -/
theorem dropBlockComments_append {inside : Bool} {text : List Char}
    (closed : inside = true → closes text = true) :
    dropBlockComments inside (text ++ tail) = dropBlockComments inside text ++ tail := by
  have slashApart : tail.head? ≠ some '/' := fun found => noSlash (List.mem_of_head? found)
  have starApart : tail.head? ≠ some '*' := fun found => noStar (List.mem_of_head? found)
  fun_induction dropBlockComments inside text with
  | case1 inside =>
    cases inside with
    | true => simp [closes] at closed
    | false => simpa [dropBlockComments] using dropBlockComments_unmarked_append noSlash []
  | case2 rest ih => exact ih (by simp)
  | case3 inside rest outside ih =>
    obtain rfl := Bool.eq_false_iff.mpr outside
    exact congrArg ('*' :: ·) (ih (by simp))
  | case4 rest ih => exact ih fun _ => closed rfl
  | case5 inside rest outside closing ih =>
    obtain rfl := Bool.eq_false_iff.mpr outside
    have still : closes (rest ++ tail) = true := (closes_append noSlash noStar rest).trans closing
    simp [dropBlockComments, still, ih fun _ => closing]
  | case6 inside rest outside endless =>
    obtain rfl := Bool.eq_false_iff.mpr outside
    have still : ¬ closes (rest ++ tail) = true := by rwa [closes_append noSlash noStar rest]
    simp [dropBlockComments, still]
  | case7 c rest noEnd _ ih =>
    have later : closes rest = true := (closes.eq_3 _ _ noEnd).symm.trans (closed rfl)
    rw [List.cons_append, dropBlockComments_inside (not_pair_append noEnd slashApart),
      ih fun _ => later]
  | case8 inside c rest _ noStart outside ih =>
    obtain rfl := Bool.eq_false_iff.mpr outside
    rw [List.cons_append, dropBlockComments_cons (not_pair_append noStart starApart), ih (by simp)]
    rfl

end

section
variable {tail : List Char} (smooth : ∀ c ∈ tail, isSmooth c = true)
include smooth

theorem not_mem_of_smooth {special : Char} (rough : isSmooth special = false) : special ∉ tail := by
  intro inside
  rw [smooth special inside] at rough
  cases rough

theorem head?_ne_of_smooth {special : Char} (rough : isSmooth special = false) :
    tail.head? ≠ some special :=
  fun found => not_mem_of_smooth smooth rough (List.mem_of_head? found)

theorem dropLineComments_smooth (inside : Bool) :
    dropLineComments inside tail = if inside then [] else tail := by
  cases inside with
  | true => exact dropLineComments_note (not_mem_of_smooth smooth rfl)
  | false =>
    simpa [dropLineComments] using
      dropLineComments_unmarked_append (not_mem_of_smooth smooth rfl) []

/-- Stripping takes a smooth tail with a line comment that is open before it, and leaves it otherwise. -/
theorem dropComments_append (text : List Char) : dropComments (text ++ tail) =
    dropComments text ++ if endsInLine false text then [] else tail := by
  unfold dropComments
  rw [dropLineComments_append (head?_ne_of_smooth smooth rfl), dropLineComments_smooth smooth]
  split
  · rw [List.append_nil, List.append_nil]
  · exact dropBlockComments_append (not_mem_of_smooth smooth rfl) (not_mem_of_smooth smooth rfl)
      (by simp)

end

theorem lineOpen_cons {c : Char} {rest : List Char} : LineOpen (c :: rest) ↔
    LineOpen rest ∨ c = '-' ∧ rest.head? = some '-' ∧ '\n' ∉ rest := by
  constructor
  · rintro ⟨before, comment, parts, sameLine⟩
    cases before with
    | nil =>
      obtain ⟨rfl, rfl⟩ := List.cons_eq_cons.mp parts
      exact .inr ⟨rfl, rfl, by simpa using sameLine⟩
    | cons d before => exact .inl ⟨before, comment, (List.cons_eq_cons.mp parts).2, sameLine⟩
  · rintro (⟨before, comment, rfl, sameLine⟩ | ⟨rfl, dash, sameLine⟩)
    · exact ⟨c :: before, comment, rfl, sameLine⟩
    · obtain ⟨comment, rfl⟩ := List.head?_eq_some_iff.mp dash
      exact ⟨[], comment, rfl, fun inside => sameLine (List.mem_cons_of_mem _ inside)⟩

theorem endsInLine_eq_true_iff (inside : Bool) (text : List Char) :
    endsInLine inside text = true ↔ LineOpen text ∨ inside = true ∧ '\n' ∉ text := by
  fun_induction endsInLine inside text with
  | case1 inside => simp [LineOpen]
  | case2 inside rest ih => simp [ih, lineOpen_cons]
  | case3 rest ih =>
    rw [ih, lineOpen_cons, lineOpen_cons]
    simp only [List.head?_cons, List.mem_cons]
    grind
  | case4 inside c rest sameLine single ih =>
    have alone : inside = false → ¬ (c = '-' ∧ rest.head? = some '-') := by
      rintro outside ⟨dash, next⟩
      obtain ⟨after, rfl⟩ := List.head?_eq_some_iff.mp next
      exact single after outside dash rfl
    rw [ih, lineOpen_cons]
    cases inside with
    | true => grind
    | false => grind

theorem dropLineComments_sublist (inside : Bool) (text : List Char) :
    (dropLineComments inside text).Sublist text := by
  fun_induction dropLineComments inside text with
  | case1 => exact .slnil
  | case2 _ rest ih => exact ih.cons_cons _
  | case3 rest ih => exact ih.cons _
  | case4 _ rest _ ih => exact (ih.cons _).cons _
  | case5 c rest _ _ ih => exact ih.cons _
  | case6 _ c rest _ _ _ ih => exact ih.cons_cons _

theorem dropBlockComments_sublist (inside : Bool) (text : List Char) :
    (dropBlockComments inside text).Sublist text := by
  fun_induction dropBlockComments inside text with
  | case1 => exact .slnil
  | case2 rest ih => exact (ih.cons _).cons _
  | case3 _ rest _ ih => exact ih.cons_cons _
  | case4 rest ih => exact ih.cons _
  | case5 _ rest _ _ ih => exact (ih.cons _).cons _
  | case6 => exact .refl _
  | case7 c rest _ _ ih => exact ih.cons _
  | case8 _ c rest _ _ _ ih => exact ih.cons_cons _

theorem dropComments_sublist (text : List Char) : (dropComments text).Sublist text :=
  (dropBlockComments_sublist false _).trans (dropLineComments_sublist false text)

end LogSieve.Sql
