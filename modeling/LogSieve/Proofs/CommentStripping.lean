import LogSieve.Proofs.SqlScan

/-! Taking comments out of a text in two passes, against the scan that does it in one. They agree
where no comment or literal holds the beginning of another comment; a block comment without an end is
the one thing that stripping keeps. -/

namespace LogSieve.Sql

/-- What the first pass should leave. -/
def unlined (marks : List Mark) : List Char :=
  (marks.filter fun mark => mark.region ≠ .line).map Mark.char

/-- What both passes should leave. -/
def outside (marks : List Mark) : List Char :=
  (marks.filter fun mark => !mark.region.isComment).map Mark.char

@[simp] theorem unlined_nil : unlined [] = [] := rfl

@[simp] theorem unlined_cons (c : Char) (region : Region) (rest : List Mark) :
    unlined (⟨c, region⟩ :: rest) = if region = .line then unlined rest else c :: unlined rest := by
  unfold unlined
  split <;> simp_all

@[simp] theorem outside_nil : outside [] = [] := rfl

@[simp] theorem outside_cons (c : Char) (region : Region) (rest : List Mark) :
    outside (⟨c, region⟩ :: rest) =
      if region.isComment then outside rest else c :: outside rest := by
  unfold outside
  split <;> simp_all

theorem dropLineComments_cons {c : Char} {rest : List Char}
    (single : ∀ after, c = '-' → rest = '-' :: after → False) :
    dropLineComments false (c :: rest) = c :: dropLineComments false rest := by
  by_cases break_ : c = '\n'
  · subst break_
    rfl
  · rw [dropLineComments.eq_4 _ _ _ break_ single]
    rfl

theorem dropLineComments_inside {c : Char} (rest : List Char) (sameLine : c ≠ '\n') :
    dropLineComments true (c :: rest) = dropLineComments true rest := by
  by_cases double : ∃ after, c = '-' ∧ rest = '-' :: after
  · obtain ⟨after, rfl, rfl⟩ := double
    rfl
  · rw [dropLineComments.eq_4 _ _ _ sameLine fun after dash next => double ⟨after, dash, next⟩]
    rfl

theorem Unnested.tail {mark : Mark} {rest : List Mark} (unnested : Unnested (mark :: rest)) :
    Unnested rest where
  lineInBlock := fun inside => unnested.lineInBlock (List.infix_cons inside)
  lineInLiteral := fun inside => unnested.lineInLiteral (List.infix_cons inside)
  blockInLiteral := fun inside => unnested.blockInLiteral (List.infix_cons inside)

theorem not_pair {region : Region} {left right c : Char} {rest : List Char}
    (apart : ¬ [Mark.mk left region, Mark.mk right region] <:+: ⟨c, region⟩ :: scan region rest)
    (stays : ∀ after, scan region (right :: after) = ⟨right, region⟩ :: scan region after)
    (after : List Char) (first : c = left) (second : rest = right :: after) : False := by
  subst first second
  rw [stays] at apart
  exact apart (List.prefix_append [_, _] _).isInfix

theorem dropLineComments_scan {region : Region} {text : List Char}
    (unnested : Unnested (scan region text)) :
    dropLineComments (region = .line) text = unlined (scan region text) := by
  fun_induction scan region text with
  | case1 region => cases region <;> rfl
  | case2 rest ih => exact ih unnested.tail.tail
  | case3 rest ih | case8 rest ih | case10 rest ih =>
    have left := ih unnested.tail.tail
    simp_all [dropLineComments]
  | case4 rest ih | case6 rest ih | case11 rest last ih =>
    have left := ih unnested.tail
    simp_all [dropLineComments]
  | case5 c rest notLine notBlock notQuote ih =>
    have left := ih unnested.tail
    simp_all [dropLineComments_cons notLine]
  | case7 c rest sameLine ih =>
    have left := ih unnested.tail
    simp_all [dropLineComments_inside rest sameLine]
  | case9 c rest stillOpen ih =>
    have left := ih unnested.tail
    have single := not_pair unnested.lineInBlock (by simp [scan])
    simp_all [dropLineComments_cons single]
  | case12 c rest notEscape notQuote ih =>
    have left := ih unnested.tail
    have single := not_pair unnested.lineInLiteral (by simp [scan])
    simp_all [dropLineComments_cons single]

theorem dropBlockComments_cons {c : Char} {rest : List Char}
    (single : ∀ after, c = '/' → rest = '*' :: after → False) :
    dropBlockComments false (c :: rest) = c :: dropBlockComments false rest := by
  by_cases closing : ∃ after, c = '*' ∧ rest = '/' :: after
  · obtain ⟨after, rfl, rfl⟩ := closing
    rfl
  · rw [dropBlockComments.eq_4 _ _ _ (fun after star next => closing ⟨after, star, next⟩) single]
    rfl

theorem dropBlockComments_inside {c : Char} {rest : List Char}
    (stillOpen : ∀ after, c = '*' → rest = '/' :: after → False) :
    dropBlockComments true (c :: rest) = dropBlockComments true rest := by
  by_cases opening : ∃ after, c = '/' ∧ rest = '*' :: after
  · obtain ⟨after, rfl, rfl⟩ := opening
    rfl
  · rw [dropBlockComments.eq_4 _ _ _ stillOpen fun after slash next => opening ⟨after, slash, next⟩]
    rfl

/-- What the second pass makes of a text that begins in a region. -/
def dropFrom (region : Region) (text : List Char) : List Char :=
  if region = .block then
    if closes text then dropBlockComments true text else '/' :: '*' :: text
  else dropBlockComments false text

theorem head?_unlined {region : Region} {text : List Char} {c : Char}
    (first : (unlined (scan region text)).head? = some c) :
    c = '\n' ∨ region ≠ .line ∧ text.head? = some c := by
  fun_induction scan region text with
  | case1 => cases first
  | case2 rest ih | case7 _ rest sameLine ih =>
    rcases ih (by simpa using first) with same | ⟨outside, -⟩
    · exact .inl same
    · exact absurd rfl outside
  | case6 rest ih => exact .inl (by simpa using first.symm)
  | _ => exact .inr ⟨by decide, by simpa using first⟩

theorem not_follows (region : Region) {rest : List Char} {left right c : Char}
    (apart : ∀ after, c = left → rest = right :: after → False) (visible : right ≠ '\n')
    (after : List Char) (first : c = left) (second : unlined (scan region rest) = right :: after) :
    False := by
  rcases head?_unlined (by rw [second]; rfl) with same | ⟨-, head⟩
  · exact visible same
  · obtain ⟨tail, rfl⟩ := List.head?_eq_some_iff.mp head
    exact apart tail first rfl

theorem outside_of_not_closes {region : Region} {text : List Char} (within : region = .block)
    (endless : closes (unlined (scan region text)) = false) : outside (scan region text) = [] := by
  fun_induction scan region text with
  | case1 => rfl
  | case8 rest ih => simp [closes] at endless
  | case9 c rest stillOpen ih =>
    have apart := not_follows .block stillOpen (by decide)
    rw [unlined_cons, if_neg (by decide), closes.eq_3 _ _ apart] at endless
    simpa using ih rfl endless
  | _ => cases within

theorem dropFrom_scan {region : Region} {text : List Char} (unnested : Unnested (scan region text)) :
    ∃ tail, (tail = [] ∨ ∃ after, tail = '/' :: after) ∧
      dropFrom region (unlined (scan region text)) = outside (scan region text) ++ tail := by
  fun_induction scan region text with
  | case1 region =>
    cases region with
    | block => exact ⟨['/', '*'], .inr ⟨_, rfl⟩, rfl⟩
    | _ => exact ⟨[], .inl rfl, rfl⟩
  | case2 rest ih | case3 rest ih | case8 rest ih => exact ih unnested.tail.tail
  | case7 _ rest sameLine ih => exact ih unnested.tail
  | case4 rest ih | case6 rest ih | case11 rest last ih =>
    obtain ⟨tail, slash, left⟩ := ih unnested.tail
    exact ⟨tail, slash, congrArg (_ :: ·) left⟩
  | case10 rest ih =>
    obtain ⟨tail, slash, left⟩ := ih unnested.tail.tail
    exact ⟨tail, slash, congrArg ('\'' :: '\'' :: ·) left⟩
  | case5 c rest notLine notBlock notQuote ih =>
    obtain ⟨tail, slash, left⟩ := ih unnested.tail
    have single := not_follows .code notBlock (by decide)
    refine ⟨tail, slash, ?_⟩
    simpa [dropFrom, dropBlockComments_cons single] using left
  | case12 c rest notEscape notQuote ih =>
    obtain ⟨tail, slash, left⟩ := ih unnested.tail
    have single := not_follows .literal (not_pair unnested.blockInLiteral (by simp [scan])) (by decide)
    refine ⟨tail, slash, ?_⟩
    simpa [dropFrom, dropBlockComments_cons single] using left
  | case9 c rest stillOpen ih =>
    have apart := not_follows .block stillOpen (by decide)
    by_cases closed : closes (unlined (scan .block rest)) = true
    · obtain ⟨tail, slash, left⟩ := ih unnested.tail
      refine ⟨tail, slash, ?_⟩
      simpa [dropFrom, closes.eq_3 _ _ apart, closed, dropBlockComments_inside apart] using left
    · have nothing := outside_of_not_closes rfl (Bool.eq_false_iff.mpr closed)
      refine ⟨'/' :: '*' :: c :: unlined (scan .block rest), .inr ⟨_, rfl⟩, ?_⟩
      simp [dropFrom, closes.eq_3 _ _ apart, closed, nothing]

/-- Both passes together leave all that no comment holds, and a comment without an end. -/
theorem dropComments_scan {text : List Char} (unnested : Unnested (scan .code text)) :
    ∃ tail, (tail = [] ∨ ∃ after, tail = '/' :: after) ∧
      dropComments text = outside (scan .code text) ++ tail := by
  have unlined := dropLineComments_scan unnested
  obtain ⟨tail, slash, left⟩ := dropFrom_scan unnested
  rw [← unlined] at left
  exact ⟨tail, slash, left⟩

end LogSieve.Sql
