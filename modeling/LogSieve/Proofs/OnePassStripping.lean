import LogSieve.Proofs.VisibleCap

/-! Stripping comments against reading them. Stripping goes over a text twice and reading goes over it
once; they agree as long as stripping sees every block comment end. It does not see the end of one that
has `--` on its last line: for the line comments, the rest of that line is gone. -/

namespace LogSieve.Sql

/-- Wherever the reading is outside comments, its line holds no `--` up to there. -/
def Clear (text : List Char) : Prop :=
  ∀ before, before <+: text → leftOpen none before = none → ¬ LineOpen before

/-- Wherever the reading is outside comments, no line comment is open where none but these are looked
for. The text may begin in a comment of either reading. -/
def InStep (within : Option CommentKind) (inLine : Bool) (text : List Char) : Prop :=
  ∀ before, before <+: text → leftOpen within before = none → endsInLine inLine before = false

theorem not_lineOpen_iff {text : List Char} : ¬ LineOpen text ↔ endsInLine false text = false := by
  rw [← Bool.not_eq_true, endsInLine_eq_true_iff]
  simp

theorem clear_iff_inStep {text : List Char} : Clear text ↔ InStep none false text := by
  simp only [Clear, InStep, not_lineOpen_iff]

instance (text : List Char) : Decidable (Clear text) :=
  decidable_of_iff (∀ before ∈ text.inits, leftOpen none before = none → endsInLine false before = false)
    (by simp only [List.mem_inits, clear_iff_inStep, InStep])

theorem endsInLine_inside {c : Char} (rest : List Char) (sameLine : c ≠ '\n') :
    endsInLine true (c :: rest) = endsInLine true rest :=
  endsInLine.eq_4 true c rest sameLine (by simp)

theorem endsInLine_outside {c : Char} {rest : List Char}
    (single : ∀ after, c = '-' → rest = '-' :: after → False) :
    endsInLine false (c :: rest) = endsInLine false rest := by
  by_cases lineBreak : c = '\n'
  · subst lineBreak
    rfl
  · exact endsInLine.eq_4 false c rest lineBreak fun after _ => single after

theorem not_pair_front {before rest : List Char} {c left right : Char} (shorter : before <+: rest)
    (single : ∀ after, c = left → rest = right :: after → False) (after : List Char)
    (first : c = left) (next : before = right :: after) : False := by
  obtain ⟨tail, rfl⟩ := shorter
  exact single (after ++ tail) first (by rw [next, List.cons_append])

/-- Behind a beginning that each reading takes for itself, they go on in step. -/
theorem InStep.drop {within next : Option CommentKind} {inLine later : Bool} {rest : List Char}
    (front : List Char) (inStep : InStep within inLine (front ++ rest))
    (reads : ∀ before, before <+: rest → leftOpen within (front ++ before) = leftOpen next before)
    (lines : ∀ before, before <+: rest → leftOpen next before = none →
      endsInLine inLine (front ++ before) = endsInLine later before) : InStep next later rest := by
  intro before shorter outside
  rw [← lines before shorter outside]
  exact inStep (front ++ before) ((List.prefix_append_right_inj front).mpr shorter)
    ((reads before shorter).trans outside)

theorem InStep.inLine_eq_false {inLine : Bool} {text : List Char} (inStep : InStep none inLine text) :
    inLine = false :=
  inStep [] List.nil_prefix rfl

theorem head?_dropLineComments {inside : Bool} {text : List Char} {c : Char}
    (first : (dropLineComments inside text).head? = some c) :
    c = '\n' ∨ inside = false ∧ text.head? = some c := by
  fun_induction dropLineComments inside text with
  | case1 => cases first
  | case2 => exact .inl (by simpa using first.symm)
  | case3 rest ih | case4 _ rest outside ih | case5 d rest sameLine _ ih =>
    rcases ih first with lineBreak | ⟨within, -⟩
    · exact .inl lineBreak
    · cases within
  | case6 inside d rest _ _ outside ih =>
    exact .inr ⟨Bool.eq_false_iff.mpr outside, by simpa using first⟩

theorem not_pair_dropLineComments {inside : Bool} {c left right : Char} {rest : List Char}
    (single : ∀ after, c = left → rest = right :: after → False) (visible : right ≠ '\n')
    (after : List Char) (first : c = left) (next : dropLineComments inside rest = right :: after) :
    False := by
  rcases head?_dropLineComments (by rw [next]; rfl) with lineBreak | ⟨-, head⟩
  · exact visible lineBreak
  · obtain ⟨tail, rfl⟩ := List.head?_eq_some_iff.mp head
    exact single tail first rfl

def regionOf : Option CommentKind → Region
  | none => .code
  | some .line => .line
  | some .block => .block

section
variable {c : Char} {rest : List Char}

theorem outside_scan_code (notLine : ∀ after, c = '-' → rest = '-' :: after → False)
    (notBlock : ∀ after, c = '/' → rest = '*' :: after → False) (notQuote : c ≠ '\'') :
    outside (scan .code (c :: rest)) = c :: outside (scan .code rest) := by
  rw [scan.eq_5 c rest notLine notBlock notQuote]
  rfl

theorem outside_scan_line (sameLine : c ≠ '\n') :
    outside (scan .line (c :: rest)) = outside (scan .line rest) := by
  rw [scan.eq_7 c rest sameLine]
  rfl

theorem outside_scan_block (stillOpen : ∀ after, c = '*' → rest = '/' :: after → False) :
    outside (scan .block (c :: rest)) = outside (scan .block rest) := by
  rw [scan.eq_9 c rest stillOpen]
  rfl

end

/-- Within a block comment, the second pass passes over a character, whatever the first has made of it. -/
theorem InStep.block_step {inLine : Bool} {c : Char} {rest : List Char}
    (inStep : InStep (some .block) inLine (c :: rest))
    (stillOpen : ∀ after, c = '*' → rest = '/' :: after → False) :
    ∃ later, InStep (some .block) later rest ∧
      closes (dropLineComments inLine (c :: rest)) = closes (dropLineComments later rest) ∧
      dropBlockComments true (dropLineComments inLine (c :: rest)) =
        dropBlockComments true (dropLineComments later rest) := by
  have reads (before : List Char) (shorter : before <+: rest) :
      leftOpen (some .block) ([c] ++ before) = leftOpen (some .block) before :=
    leftOpen_quiet (not_pair_front shorter stillOpen)
  cases inLine with
  | true =>
    by_cases lineBreak : c = '\n'
    · subst lineBreak
      have apart (after : List Char) (star : '\n' = '*')
          (_ : dropLineComments false rest = '/' :: after) : False := absurd star (by decide)
      exact ⟨false, inStep.drop ['\n'] reads fun _ _ _ => rfl, closes.eq_3 _ _ apart,
        dropBlockComments_inside apart⟩
    · have hidden := dropLineComments_inside rest lineBreak
      exact ⟨true, inStep.drop [c] reads fun before _ _ => endsInLine_inside before lineBreak,
        congrArg closes hidden, congrArg (dropBlockComments true) hidden⟩
  | false =>
    by_cases double : ∃ after, c = '-' ∧ rest = '-' :: after
    · obtain ⟨after, rfl, rfl⟩ := double
      have hidden : dropLineComments false ('-' :: '-' :: after) = dropLineComments true ('-' :: after) :=
        (dropLineComments_inside after (by decide)).symm
      refine ⟨true, inStep.drop ['-'] reads fun before shorter outside => ?_, congrArg closes hidden,
        congrArg (dropBlockComments true) hidden⟩
      cases before with
      | nil => cases outside
      | cons d before =>
        obtain ⟨rfl, -⟩ := List.cons_prefix_cons.mp shorter
        exact (endsInLine_inside before (by decide)).symm
    · have single (after : List Char) (dash : c = '-') (next : rest = '-' :: after) : False :=
        double ⟨after, dash, next⟩
      have apart (after : List Char) (star : c = '*')
          (next : dropLineComments false rest = '/' :: after) : False :=
        not_pair_dropLineComments stillOpen (by decide) after star next
      have kept := dropLineComments_cons single
      refine ⟨false, inStep.drop [c] reads fun before shorter _ =>
        endsInLine_outside (not_pair_front shorter single), ?_, ?_⟩
      · rw [kept, closes.eq_3 _ _ apart]
      · rw [kept, dropBlockComments_inside apart]

/-- What is left where both readings have got to the same point. Within a block comment, line comments are
looked for all the same, but never where it ends. -/
theorem dropComments_reading {within : Option CommentKind} {inLine : Bool} {text : List Char}
    (unquoted : '\'' ∉ text) (closed : leftOpen within text ≠ some .block)
    (inStep : InStep within inLine text) (line : within = some .line → inLine = true) :
    (within = some .block → closes (dropLineComments inLine text) = true) ∧
      dropBlockComments (within = some .block) (dropLineComments inLine text) =
        outside (scan (regionOf within) text) := by
  fun_induction leftOpen within text generalizing inLine with
  | case1 within =>
    refine ⟨fun block => absurd block closed, ?_⟩
    simp [dropLineComments, dropBlockComments, scan]
  | case2 rest ih =>
    obtain rfl := inStep.inLine_eq_false
    have later : InStep (some .line) true rest := inStep.drop ['-', '-'] (fun _ _ => rfl) fun _ _ _ => rfl
    exact ⟨by simp, (ih (by simp_all) closed later fun _ => rfl).2⟩
  | case3 rest ih =>
    obtain rfl := inStep.inLine_eq_false
    have later : InStep (some .block) false rest := inStep.drop ['/', '*'] (fun _ _ => rfl) fun _ _ _ => rfl
    obtain ⟨closing, left⟩ := ih (by simp_all) closed later (by simp)
    refine ⟨by simp, ?_⟩
    have kept : dropLineComments false ('/' :: '*' :: rest) = '/' :: '*' :: dropLineComments false rest := rfl
    rw [kept]
    exact (if_pos (closing rfl)).trans left
  | case4 c rest notLine notBlock ih =>
    obtain rfl := inStep.inLine_eq_false
    have later : InStep none false rest := inStep.drop [c]
      (fun before shorter =>
        leftOpen_quiet ⟨not_pair_front shorter notLine, not_pair_front shorter notBlock⟩)
      fun before shorter _ => endsInLine_outside (not_pair_front shorter notLine)
    have notQuote : c ≠ '\'' := (List.ne_of_not_mem_cons unquoted).symm
    have left := (ih (List.not_mem_of_not_mem_cons unquoted) closed later (by simp)).2
    refine ⟨by simp, ?_⟩
    rw [dropLineComments_cons notLine]
    simp only [regionOf, reduceCtorEq, decide_false] at left ⊢
    rw [dropBlockComments_cons (not_pair_dropLineComments notBlock (by decide)), left,
      outside_scan_code notLine notBlock notQuote]
  | case5 rest ih =>
    obtain rfl := line rfl
    have later : InStep none false rest := inStep.drop ['\n'] (fun _ _ => rfl) fun _ _ _ => rfl
    have left := (ih (List.not_mem_of_not_mem_cons unquoted) closed later (by simp)).2
    exact ⟨by simp, congrArg ('\n' :: ·) left⟩
  | case6 c rest sameLine ih =>
    obtain rfl := line rfl
    have later : InStep (some .line) true rest := inStep.drop [c]
      (fun before _ => leftOpen_quiet sameLine) fun before _ _ => endsInLine_inside before sameLine
    have left := (ih (List.not_mem_of_not_mem_cons unquoted) closed later fun _ => rfl).2
    refine ⟨by simp, ?_⟩
    rw [dropLineComments_inside rest sameLine, left]
    exact (outside_scan_line sameLine).symm
  | case7 rest ih =>
    have seen := inStep ['*', '/'] (List.prefix_append ['*', '/'] rest) rfl
    have ended : inLine = false := by
      cases inLine with
      | false => rfl
      | true => exact seen
    subst ended
    have later : InStep none false rest := inStep.drop ['*', '/'] (fun _ _ => rfl) fun _ _ _ => rfl
    have left := (ih (by simp_all) closed later (by simp)).2
    exact ⟨fun _ => rfl, left⟩
  | case8 c rest stillOpen ih =>
    obtain ⟨later, inStep, closing, left⟩ := inStep.block_step stillOpen
    obtain ⟨closingRest, leftRest⟩ := ih (List.not_mem_of_not_mem_cons unquoted) closed inStep (by simp)
    refine ⟨fun _ => closing.trans (closingRest rfl), ?_⟩
    simp only [regionOf, decide_true] at leftRest ⊢
    rw [left, leftRest, outside_scan_block stillOpen]

theorem outside_scan_concat {within : Option CommentKind} {text : List Char} {c : Char}
    (unquoted : '\'' ∉ text) (closed : leftOpen within text = none) (smooth : isSmooth c = true)
    (notQuote : c ≠ '\'') : outside (scan (regionOf within) (text ++ [c])) =
      outside (scan (regionOf within) text) ++ [c] := by
  have tailSmooth : ∀ d ∈ [c], isSmooth d = true := by simpa using smooth
  fun_induction leftOpen within text with
  | case1 within =>
    subst closed
    obtain ⟨noDash, noSlash, -, -⟩ := isSmooth_iff.mp smooth
    exact outside_scan_code (fun _ dash _ => noDash dash) (fun _ slash _ => noSlash slash) notQuote
  | case2 rest ih | case3 rest ih | case7 rest ih => exact ih (by simp_all) closed
  | case4 d rest notLine notBlock ih =>
    have plain : d ≠ '\'' := (List.ne_of_not_mem_cons unquoted).symm
    have left := ih (List.not_mem_of_not_mem_cons unquoted) closed
    rw [List.cons_append, regionOf, outside_scan_code
      (not_pair_append notLine (head?_ne_of_smooth tailSmooth rfl))
      (not_pair_append notBlock (head?_ne_of_smooth tailSmooth rfl)) plain,
      outside_scan_code notLine notBlock plain, List.cons_append]
    exact congrArg (d :: ·) left
  | case5 rest ih =>
    exact congrArg ('\n' :: ·) (ih (List.not_mem_of_not_mem_cons unquoted) closed)
  | case6 d rest sameLine ih =>
    rw [List.cons_append, regionOf, outside_scan_line sameLine, outside_scan_line sameLine]
    exact ih (List.not_mem_of_not_mem_cons unquoted) closed
  | case8 d rest stillOpen ih =>
    rw [List.cons_append, regionOf,
      outside_scan_block (not_pair_append stillOpen (head?_ne_of_smooth tailSmooth rfl)),
      outside_scan_block stillOpen]
    exact ih (List.not_mem_of_not_mem_cons unquoted) closed

theorem dropComments_concat_of_lineOpen {before : List Char} (hidden : LineOpen before) {c : Char}
    (smooth : isSmooth c = true) : dropComments (before ++ [c]) = dropComments before := by
  have inLine : endsInLine false before = true := (endsInLine_eq_true_iff false before).mpr (.inl hidden)
  have tailSmooth : ∀ d ∈ [c], isSmooth d = true := by simpa using smooth
  rw [dropComments_append tailSmooth, if_pos inLine, List.append_nil]

/-- Of a text without quotes that leaves no block comment open, stripping keeps what lies outside
comments, as long as no block comment ends behind a `--` on its line. One that does takes more away than
itself: at some point outside comments, stripping does not see the letter that comes next. -/
theorem dropComments_eq_outside {text : List Char} (unquoted : '\'' ∉ text)
    (closed : leftOpen none text ≠ some .block) :
    (Clear text → dropComments text = outside (scan .code text)) ∧
    (¬ Clear text → ∃ before c, before <+: text ∧ leftOpen none before = none ∧
      Text.isAsciiLetter c = true ∧
      dropComments (before ++ [c]) ≠ outside (scan .code (before ++ [c]))) := by
  constructor
  · intro clear
    exact (dropComments_reading unquoted closed (clear_iff_inStep.mp clear) (by simp)).2
  · intro unclear
    simp only [Clear, not_forall, not_not] at unclear
    obtain ⟨before, shorter, outsideComments, hidden⟩ := unclear
    have noQuote : '\'' ∉ before := fun inside => unquoted (shorter.subset inside)
    have read {c : Char} (smooth : isSmooth c = true) (notQuote : c ≠ '\'')
        (same : dropComments (before ++ [c]) = outside (scan .code (before ++ [c]))) :
        dropComments before = outside (scan .code before) ++ [c] := by
      rw [← dropComments_concat_of_lineOpen hidden smooth, same]
      exact outside_scan_concat noQuote outsideComments smooth notQuote
    by_contra agrees
    simp only [not_exists, not_and, ne_eq, not_not] at agrees
    have first := read rfl (by decide) (agrees before 'x' shorter outsideComments rfl)
    have second := read rfl (by decide) (agrees before 'y' shorter outsideComments rfl)
    have both := first.symm.trans second
    simp at both

theorem dropComments_eq_outside_nested :
    '\'' ∉ "SELECT a /* -- b\n/*/ FROM t -- /*".toList ∧
      leftOpen none "SELECT a /* -- b\n/*/ FROM t -- /*".toList ≠ some .block ∧
      Clear "SELECT a /* -- b\n/*/ FROM t -- /*".toList ∧
      dropComments "SELECT a /* -- b\n/*/ FROM t -- /*".toList =
        outside (scan .code "SELECT a /* -- b\n/*/ FROM t -- /*".toList) := by
  have unquoted : '\'' ∉ "SELECT a /* -- b\n/*/ FROM t -- /*".toList := by
    decide
  have closed : leftOpen none "SELECT a /* -- b\n/*/ FROM t -- /*".toList ≠
      some .block := by decide
  have clear : Clear "SELECT a /* -- b\n/*/ FROM t -- /*".toList := by
    decide +kernel
  exact ⟨unquoted, closed, clear, (dropComments_eq_outside unquoted closed).1 clear⟩

/-- A block comment in which `--` comes before its end hides the query behind it, which is then refused. -/
theorem not_dropComments_eq_outside_dashed :
    '\'' ∉ "/* -- */ SELECT 1".toList ∧ leftOpen none "/* -- */ SELECT 1".toList ≠ some .block ∧
      dropComments "/* -- */ SELECT 1".toList ≠ outside (scan .code "/* -- */ SELECT 1".toList) ∧
      checkReadOnly "/* -- */ SELECT 1" = .error .notSelect ∧
      checkReadOnly (String.ofList (outside (scan .code "/* -- */ SELECT 1".toList))) = .ok () := by
  refine ⟨by decide, by decide, by decide, ?_, ?_⟩
  · decide +kernel
  · decide +kernel

end LogSieve.Sql
