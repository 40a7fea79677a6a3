import LogSieve.Proofs.Names

/-! The layout of a text. Without the blanks at its ends, and with one space in the place of every run of
blanks, a text is its words joined by spaces, and these are read back as the words that they are. -/

namespace LogSieve.Text

/-- The text with one space in the place of every run of blanks, written where the run ends. -/
def collapse : List Char → List Char
  | [] => []
  | c :: rest =>
    if isBlank c then
      if rest.head?.any isBlank then collapse rest else ' ' :: collapse rest
    else c :: collapse rest

theorem words_cons_blank {c : Char} (blank : isBlank c = true) (rest : List Char) :
    words (c :: rest) = words rest :=
  runs_append_cons [] rest (by simp [blank])

theorem words_cons_visible {c : Char} (visible : isBlank c = false) (rest : List Char) :
    words (c :: rest) = if rest.head?.all isBlank then [c] :: words rest
      else (words rest).modifyHead (c :: ·) := by
  cases rest with
  | nil => exact runs_eq_singleton (List.cons_ne_nil c []) (by simp [visible])
  | cons d rest =>
    cases next : isBlank d with
    | true =>
      have alone : words [c] = [[c]] := runs_eq_singleton (List.cons_ne_nil c []) (by simp [visible])
      have parted : words (c :: d :: rest) = words [c] ++ words rest :=
        runs_append_cons [c] rest (by simp [next])
      rw [parted, alone, words_cons_blank next]
      simp [next]
    | false =>
      obtain ⟨part, parts, cut⟩ :=
        List.exists_cons_of_ne_nil (List.splitOnP_ne_nil (fun c => !isVisible c) rest)
      unfold words runs
      rw [List.splitOnP_cons_eq_if_modifyHead c, List.splitOnP_cons_eq_if_modifyHead d, cut]
      simp [isVisible, visible, next]

theorem words_ne_nil {text : List Char} (nonempty : text ≠ [])
    (visible : ∀ c ∈ text.getLast?, isBlank c = false) : words text ≠ [] := by
  have last := visible (text.getLast nonempty) (List.getLast?_eq_some_getLast nonempty)
  exact runs_ne_nil (List.getLast_mem nonempty) (by simp [last])

theorem intercalate_modifyHead {parts : List (List Char)} (nonempty : parts ≠ []) (c : Char) :
    [' '].intercalate (parts.modifyHead (c :: ·)) = c :: [' '].intercalate parts := by
  obtain ⟨first, more, rfl⟩ := List.exists_cons_of_ne_nil nonempty
  cases more <;> rfl

/-- A text that ends in a visible character is its words joined by spaces, behind a space where it
begins with a blank. -/
theorem collapse_eq {text : List Char} (visible : ∀ c ∈ text.getLast?, isBlank c = false) :
    collapse text = (if text.head?.any isBlank then [' '] else []) ++ [' '].intercalate (words text) := by
  induction text with
  | nil => rfl
  | cons c rest ih =>
    by_cases alone : rest = []
    · subst alone
      have single : isBlank c = false := visible c rfl
      rw [words_cons_visible single]
      simp [collapse, single, words]
    · have ends : ∀ d ∈ rest.getLast?, isBlank d = false := by
        intro d last
        exact visible d (by rwa [List.getLast?_cons_of_ne_nil alone])
      have held := words_ne_nil alone ends
      have below := ih ends
      obtain ⟨d, later, rfl⟩ := List.exists_cons_of_ne_nil alone
      cases first : isBlank c with
      | true =>
        rw [words_cons_blank first, collapse, if_pos first, below]
        cases next : isBlank d <;> simp [first, next]
      | false =>
        rw [words_cons_visible first, collapse, if_neg (by simp [first]), below]
        cases next : isBlank d with
        | true =>
          obtain ⟨word, more, parts⟩ := List.exists_cons_of_ne_nil held
          simp [first, next, parts]
        | false => simp [first, next, intercalate_modifyHead held]

theorem any_isBlank_head?_trim (text : List Char) : (trim text).head?.any isBlank = false := by
  cases front : (trim text).head? with
  | none => rfl
  | some c => exact not_isBlank_of_mem_head?_trim text c front

theorem collapse_trim (text : List Char) : collapse (trim text) = [' '].intercalate (words text) := by
  rw [collapse_eq (not_isBlank_of_mem_getLast?_trim text), words_trim, any_isBlank_head?_trim]
  rfl

theorem words_intercalate {parts : List (List Char)} (alone : ∀ part ∈ parts, words part = [part]) :
    words ([' '].intercalate parts) = parts := by
  induction parts with
  | nil => rfl
  | cons first rest ih =>
    have own := alone first List.mem_cons_self
    cases rest with
    | nil => rwa [List.intercalate_singleton]
    | cons next rest =>
      have below := ih fun part member => alone part (List.mem_cons_of_mem first member)
      have parted : words (first ++ ' ' :: [' '].intercalate (next :: rest)) =
          words first ++ words ([' '].intercalate (next :: rest)) := runs_append_cons _ _ (by decide)
      rw [List.intercalate_cons_cons, List.append_assoc, List.singleton_append, parted, own, below]
      rfl

theorem words_collapse_trim (text : List Char) : words (collapse (trim text)) = words text := by
  rw [collapse_trim, words_intercalate]
  intro word member
  exact runs_eq_singleton (ne_nil_of_mem_runs member) (inClass_of_mem_runs member)

end LogSieve.Text
