import LogSieve.Proofs.Conjunction
import LogSieve.Proofs.Layout

/-! Separators in the text itself. A separator takes the blanks on both of its sides with it, so the next
one finds none in front and separates nothing. Cutting the text at what is found from the left, and only
then the parts into words, comes to the same as cutting the words. -/

namespace LogSieve.Text

structure Gap (blanks : List Char) : Prop where
  nonempty : blanks ≠ []
  blank : ∀ c ∈ blanks, isBlank c = true

theorem gap_takeWhile {text : List Char} (begins : text.head?.any isBlank = true) :
    Gap (text.takeWhile isBlank) := by
  refine ⟨?_, fun c => List.mem_takeWhile_imp⟩
  cases text with
  | nil => cases begins
  | cons c text =>
    have blank : isBlank c = true := begins
    rw [List.takeWhile_cons_of_pos blank]
    exact List.cons_ne_nil c _

theorem head?_dropWhile_isBlank (text : List Char) :
    (text.dropWhile isBlank).head?.any isBlank = false := by
  have kept := List.head?_dropWhile_not isBlank text
  cases first : (text.dropWhile isBlank).head? with
  | none => rfl
  | some c =>
    rw [first] at kept
    simpa using kept

end LogSieve.Text

namespace LogSieve.Filter
open Text Grammar

theorem words_append_word {word tail : List Char} (solid : Solid word)
    (parted : tail.head?.all isBlank = true) : words (word ++ tail) = word :: words tail := by
  cases tail with
  | nil => rw [List.append_nil, solid.words]; rfl
  | cons c tail =>
    have cut : words (word ++ c :: tail) = words word ++ words tail :=
      runs_append_cons word tail (by simpa using parted)
    rw [cut, solid.words, words_cons_blank parted]
    rfl

theorem words_cons_eq_takeWhile {c : Char} (visible : isBlank c = false) (text : List Char) :
    words (c :: text) =
      (c :: text).takeWhile isVisible :: words ((c :: text).dropWhile isVisible) := by
  have cut := words_append_word (solid_takeWhile visible text) (head?_dropWhile_isVisible (c :: text))
  rwa [List.takeWhile_append_dropWhile] at cut

theorem solid_of_isKeyword {keyword word : Word} (letters : ∀ k ∈ keyword, isAsciiLetter k = true)
    (nonempty : keyword ≠ []) (same : isKeyword keyword word = true) : Solid word := by
  have spelled := isWordChar_of_isKeyword letters same
  refine ⟨?_, fun c member => isVisible_eq_true.mp (isVisible_of_isWordChar (spelled c member))⟩
  rintro rfl
  exact nonempty (beq_iff_eq.mp same).symm

theorem solid_of_isAnd {word : Word} (separator : isAnd word = true) : Solid word :=
  solid_of_isKeyword (by simp [isAsciiLetter]) (by simp) separator

theorem solid_of_isOr {word : Word} (separator : isOr word = true) : Solid word :=
  solid_of_isKeyword (by simp [isAsciiLetter]) (by simp) separator

/-- The parts of what stands behind a word. -/
def behind (separates : Word → Bool) : List Word → List (List Word)
  | [] => [[]]
  | next :: rest =>
    if separates next && !rest.isEmpty then [] :: splitAt separates rest
    else splitAt separates (next :: rest)

theorem splitAt_cons (separates : Word → Bool) (word : Word) (rest : List Word) :
    splitAt separates (word :: rest) = attach word (behind separates rest) := by
  cases rest with
  | nil => rfl
  | cons next rest =>
    rw [splitAt, behind]
    split <;> rfl

theorem splitAt_modifyHead (separates : Word → Bool) (change : Word → Word) {parts : List Word}
    (nonempty : parts ≠ []) : splitAt separates (parts.modifyHead change) =
      (splitAt separates parts).modifyHead (·.modifyHead change) := by
  obtain ⟨word, rest, rfl⟩ := List.exists_cons_of_ne_nil nonempty
  rw [List.modifyHead_cons, splitAt_cons, splitAt_cons]
  cases behind separates rest <;> rfl

/-- What stands behind a separator at the front of the text: blanks, the keyword and blanks again, all
that there are. -/
def afterSeparator? (keyword : Word) (text : List Char) : Option (List Char) :=
  if text.head?.any isBlank then
    ((afterKeyword? keyword (text.dropWhile isBlank)).filter fun rest =>
      rest.head?.any isBlank).map (·.dropWhile isBlank)
  else none

section
variable {keyword : Word} {text rest : List Char}

theorem begins_of_afterSeparator? (found : afterSeparator? keyword text = some rest) :
    text.head?.any isBlank = true := by
  unfold afterSeparator? at found
  split at found
  next begins => exact begins
  next => cases found

theorem exists_of_afterSeparator? (found : afterSeparator? keyword text = some rest) :
    ∃ before word after, text = before ++ (word ++ (after ++ rest)) ∧ Gap before ∧
      isKeyword keyword word = true ∧ Gap after ∧ rest.head?.any isBlank = false := by
  have begins := begins_of_afterSeparator? found
  rw [afterSeparator?, if_pos begins, Option.map_eq_some_iff] at found
  obtain ⟨tail, kept, rfl⟩ := found
  obtain ⟨named, ends⟩ := Option.filter_eq_some_iff.mp kept
  obtain ⟨word, same, cut⟩ := exists_of_afterKeyword? named
  refine ⟨text.takeWhile isBlank, word, tail.takeWhile isBlank, ?_, gap_takeWhile begins, same,
    gap_takeWhile ends, head?_dropWhile_isBlank tail⟩
  rw [List.takeWhile_append_dropWhile, ← cut, List.takeWhile_append_dropWhile]

theorem length_lt_of_afterSeparator? (found : afterSeparator? keyword text = some rest) :
    rest.length < text.length := by
  obtain ⟨before, word, after, rfl, gap, -⟩ := exists_of_afterSeparator? found
  have some := List.length_pos_iff.mpr gap.nonempty
  simp only [List.length_append]
  omega

theorem ends_of_afterSeparator? (found : afterSeparator? keyword text = some rest)
    (ends : ∀ c ∈ text.getLast?, isBlank c = false) :
    rest ≠ [] ∧ ∀ c ∈ rest.getLast?, isBlank c = false := by
  obtain ⟨before, word, after, rfl, -, -, gap, -⟩ := exists_of_afterSeparator? found
  constructor
  · rintro rfl
    have last := List.getLast?_eq_some_getLast gap.nonempty
    have visible := ends (after.getLast gap.nonempty) (by simp [List.getLast?_append, last])
    rw [gap.blank _ (List.getLast_mem gap.nonempty)] at visible
    cases visible
  · intro c last
    exact ends c (by simp [List.getLast?_append, Option.mem_def.mp last])

theorem afterSeparator?_cons {c : Char} {word tail : List Char} (blank : isBlank c = true)
    (solid : Solid word) (same : isKeyword keyword word = true) (parted : tail.head?.any isBlank = true) :
    afterSeparator? keyword (c :: (word ++ tail)) = some (tail.dropWhile isBlank) := by
  obtain ⟨first, letters, rfl⟩ := List.exists_cons_of_ne_nil solid.nonempty
  have visible := solid.noBlank first List.mem_cons_self
  have bare : (c :: (first :: letters ++ tail)).dropWhile isBlank = first :: letters ++ tail := by
    rw [List.dropWhile_cons_of_pos blank, List.cons_append,
      List.dropWhile_cons_of_neg (by simp [visible])]
  rw [afterSeparator?, bare, afterKeyword?_append (beq_iff_eq.mp same) tail]
  simp [blank, Option.filter, parted]

end

/-- The parts of a text, cut at the separators that are found from left to right. -/
def pieces (keyword : Word) : List Char → List (List Char)
  | [] => [[]]
  | c :: text =>
    match _found : afterSeparator? keyword (c :: text) with
    | some rest => [] :: pieces keyword rest
    | none => (pieces keyword text).modifyHead (c :: ·)
termination_by text => text.length
decreasing_by
  · exact length_lt_of_afterSeparator? _found
  · exact Nat.lt_succ_self _

theorem exists_pieces_eq (keyword : Word) (text : List Char) : ∃ first more,
    pieces keyword text = first :: more ∧
      (first.head? = text.head? ∨ first = [] ∧ text.head?.any isBlank = true) := by
  fun_induction pieces keyword text with
  | case1 => exact ⟨[], [], rfl, .inl rfl⟩
  | case2 c text rest found => exact ⟨[], _, rfl, .inr ⟨rfl, begins_of_afterSeparator? found⟩⟩
  | case3 c text absent ih =>
    obtain ⟨first, more, parts, -⟩ := ih
    exact ⟨c :: first, more, by rw [parts]; rfl, .inl rfl⟩

variable {keyword : Word}

theorem behind_words_of_afterSeparator? {text rest : List Char}
    (solid : ∀ word, isKeyword keyword word = true → Solid word)
    (found : afterSeparator? keyword text = some rest) (more : words rest ≠ []) :
    behind (isKeyword keyword) (words text) = [] :: splitAt (isKeyword keyword) (words rest) := by
  obtain ⟨before, word, after, rfl, front, same, gap, -⟩ := exists_of_afterSeparator? found
  have whole : words (before ++ (word ++ (after ++ rest))) = word :: words rest := by
    have skipped := words_append_blank [] (word ++ (after ++ rest)) front.nonempty front.blank
    have parted := words_append_blank word rest gap.nonempty gap.blank
    rw [(solid word same).words] at parted
    exact skipped.trans parted
  rw [whole, behind, if_pos (by simp [same, more])]

theorem behind_words_of_afterSeparator?_eq_none {c d : Char} {text : List Char}
    (blank : isBlank c = true) (visible : isBlank d = false)
    (absent : afterSeparator? keyword (c :: d :: text) = none) :
    behind (isKeyword keyword) (words (d :: text)) =
      splitAt (isKeyword keyword) (words (d :: text)) := by
  obtain ⟨word, tail, cut, whole, parted⟩ := exists_word visible text
  rw [cut] at absent ⊢
  rw [words_append_word whole parted, behind, if_neg]
  intro taken
  rw [Bool.and_eq_true, Bool.not_eq_true', List.isEmpty_eq_false_iff] at taken
  have ended : tail.head?.any isBlank = true := by
    cases tail with
    | nil => exact absurd rfl taken.2
    | cons e tail => exact parted
  rw [afterSeparator?_cons blank whole taken.1 ended] at absent
  cases absent

/-- A visible character in front joins the first word of the first part, or makes a word where that part
holds none to join. -/
theorem words_cons_eq_splitAt {separates : Word → Bool} {c d : Char} {text first : List Char}
    {more : List (List Word)} (visible : isBlank c = false)
    (begins : first.head? = some d ∨ first = [] ∧ isBlank d = true)
    (parts : words first :: more = if isBlank d then behind separates (words (d :: text))
      else splitAt separates (words (d :: text))) :
    words (c :: first) :: more = splitAt separates (words (c :: d :: text)) := by
  rw [words_cons_visible visible first, words_cons_visible visible (d :: text), List.head?_cons,
    Option.all_some]
  cases next : isBlank d with
  | true =>
    have apart : first.head?.all isBlank = true := by
      rcases begins with same | ⟨rfl, -⟩
      · rwa [same]
      · rfl
    rw [next, if_pos rfl] at parts
    rw [apart, if_pos rfl, if_pos rfl, splitAt_cons, ← parts]
    rfl
  | false =>
    have same : first.head? = some d := begins.resolve_right fun other => by simp [next] at other
    have held : words (d :: text) ≠ [] := runs_ne_nil List.mem_cons_self (by simp [next])
    rw [next, if_neg Bool.false_ne_true] at parts
    rw [same, Option.all_some, next, if_neg Bool.false_ne_true, if_neg Bool.false_ne_true,
      splitAt_modifyHead _ _ held, ← parts]
    rfl

/-- A text that begins with blanks is cut like what stands behind a word, any other like words of its
own. -/
theorem map_words_pieces (solid : ∀ word, isKeyword keyword word = true → Solid word) {text : List Char}
    (ends : ∀ c ∈ text.getLast?, isBlank c = false) : (pieces keyword text).map words =
      if text.head?.any isBlank then behind (isKeyword keyword) (words text)
      else splitAt (isKeyword keyword) (words text) := by
  fun_induction pieces keyword text with
  | case1 => rfl
  | case2 c text rest found ih =>
    obtain ⟨-, -, -, -, -, -, -, opens⟩ := exists_of_afterSeparator? found
    obtain ⟨nonempty, later⟩ := ends_of_afterSeparator? found ends
    have below := ih later
    rw [opens, if_neg Bool.false_ne_true] at below
    rw [List.map_cons, below, if_pos (begins_of_afterSeparator? found),
      behind_words_of_afterSeparator? solid found (words_ne_nil nonempty later)]
    rfl
  | case3 c text absent ih =>
    cases text with
    | nil =>
      have visible : isBlank c = false := ends c rfl
      have single : words [c] = [[c]] := by rw [words_cons_visible visible]; rfl
      simp [pieces, single, visible, splitAt]
    | cons d text =>
      have below := ih fun e last => ends e (by rwa [List.getLast?_cons_cons])
      obtain ⟨first, more, parts, begins⟩ := exists_pieces_eq keyword (d :: text)
      rw [parts, List.map_cons, List.head?_cons, Option.any_some] at below
      rw [parts, List.modifyHead_cons, List.map_cons, List.head?_cons, Option.any_some]
      cases blank : isBlank c with
      | true =>
        rw [words_cons_blank blank, words_cons_blank blank, below]
        cases next : isBlank d with
        | true => rfl
        | false => exact (behind_words_of_afterSeparator?_eq_none blank next absent).symm
      | false => exact words_cons_eq_splitAt blank begins below

/-- In a text without blanks at its ends, what lies between the separators are the parts that its words
are cut into. -/
theorem map_words_pieces_trim (solid : ∀ word, isKeyword keyword word = true → Solid word)
    (text : List Char) :
    (pieces keyword (trim text)).map words = splitAt (isKeyword keyword) (words text) := by
  rw [map_words_pieces solid (not_isBlank_of_mem_getLast?_trim text), any_isBlank_head?_trim, words_trim]
  rfl

end LogSieve.Filter
