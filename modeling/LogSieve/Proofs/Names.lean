import Mathlib.Data.List.DropRight
import Mathlib.Data.List.TakeWhile
import LogSieve.Proofs.Runs

/-! Whole words of a text that is put together from parts. Parts keep their words wherever a character
that is no word character stands between them; blanks at the ends add none. -/

namespace LogSieve.Text

def endsInWord (text : List Char) : Bool := text.getLast?.any isWordChar

def beginsInWord (text : List Char) : Bool := text.head?.any isWordChar

theorem names_append_of_not_endsInWord {before : List Char} (apart : endsInWord before = false)
    (after : List Char) : names (before ++ after) = names before ++ names after := by
  rcases before.eq_nil_or_concat with rfl | ⟨front, last, rfl⟩
  · simp [names]
  · have plain : isWordChar last = false := by simpa [endsInWord] using apart
    have left := runs_append_cons front [] plain
    simp only [names, List.concat_eq_append, List.append_assoc, List.singleton_append] at left ⊢
    rw [runs_append_cons front after plain, left]
    simp

theorem names_append_cons (before after : List Char) {c : Char} (plain : isWordChar c = false) :
    names (before ++ c :: after) = names before ++ names after :=
  runs_append_cons before after plain

theorem names_append_gap (before after : List Char) {gap : List Char} (nonempty : gap ≠ [])
    (spaces : ∀ c ∈ gap, isWordChar c = false) :
    names (before ++ gap ++ after) = names before ++ names after := by
  rw [List.append_assoc]
  exact runs_append_gap before after nonempty spaces

theorem names_append_spaces (before : List Char) {gap : List Char}
    (spaces : ∀ c ∈ gap, isWordChar c = false) : names (before ++ gap) = names before := by
  by_cases empty : gap = []
  · rw [empty, List.append_nil]
  · simpa [names] using names_append_gap before [] empty spaces

theorem names_append_apart (before : List Char) {after : List Char}
    (apart : beginsInWord after = false) :
    names (before ++ after) = names before ++ names after := by
  cases after with
  | nil => simp [names]
  | cons c rest =>
    have plain : isWordChar c = false := by simpa [beginsInWord] using apart
    have alone : names (c :: rest) = names rest := names_append_cons [] rest plain
    rw [names_append_cons before rest plain, alone]

theorem names_eq_of_ascii {text : List Char} (ascii : ∀ c ∈ text, c.toNat < 0x80) :
    names text = runs isAsciiWord text :=
  runs_congr fun c member => isWordChar_eq_isAsciiWord (ascii c member)

theorem names_toDigits (n : Nat) : names (Nat.toDigits 10 n) = [Nat.toDigits 10 n] := by
  refine runs_eq_singleton Nat.toDigits_ne_nil fun c member => ?_
  simp [isWordChar, isAsciiWord, isAsciiDigit_of_mem_toDigits member]

theorem exists_trim (text : List Char) : ∃ front back, (∀ c ∈ front, isBlank c = true) ∧
    (∀ c ∈ back, isBlank c = true) ∧ text = front ++ (trim text ++ back) := by
  refine ⟨text.takeWhile isBlank, ((text.dropWhile isBlank).reverse.takeWhile isBlank).reverse,
    fun c => List.mem_takeWhile_imp, fun c member => List.mem_takeWhile_imp (List.mem_reverse.mp member),
    ?_⟩
  rw [trim, ← List.reverse_append, List.takeWhile_append_dropWhile, List.reverse_reverse,
    List.takeWhile_append_dropWhile]

theorem trim_of_blanks {front back : List Char} (blankFront : ∀ c ∈ front, isBlank c = true)
    (blankBack : ∀ c ∈ back, isBlank c = true) (text : List Char) :
    trim (front ++ (text ++ back)) = trim text := by
  have skipped : back.dropWhile isBlank = [] := by simpa using blankBack
  unfold trim
  rw [List.dropWhile_append_of_pos blankFront, List.dropWhile_append]
  split
  next empty => rw [skipped, List.isEmpty_iff.mp empty]
  next =>
    rw [List.reverse_append,
      List.dropWhile_append_of_pos fun c member => blankBack c (List.mem_reverse.mp member)]

/-- Blanks at the ends of a text belong to no run of a class without blanks. -/
theorem runs_trim {inClass : Char → Bool} (outside : ∀ c, isBlank c = true → inClass c = false)
    (text : List Char) : runs inClass (trim text) = runs inClass text := by
  obtain ⟨front, back, blankFront, blankBack, parts⟩ := exists_trim text
  have skipped : runs inClass text = runs inClass (trim text ++ back) := by
    conv_lhs => rw [parts]
    exact runs_skip (fun c member => outside c (blankFront c member)) (trim text ++ back)
  rw [skipped]
  by_cases empty : back = []
  · rw [empty, List.append_nil]
  · have parted := runs_append_gap (trim text) [] empty fun c member => outside c (blankBack c member)
    rw [List.append_nil, runs_nil, List.append_nil] at parted
    exact parted.symm

theorem names_trim (text : List Char) : names (trim text) = names text :=
  runs_trim (fun _ => not_isWordChar_of_isBlank) text

theorem words_trim (text : List Char) : words (trim text) = words text :=
  runs_trim (fun c blank => by simp [blank]) text

theorem not_isBlank_of_mem_getLast?_trim (text : List Char) :
    ∀ c ∈ (trim text).getLast?, isBlank c = false := by
  intro c last
  rw [trim, List.getLast?_reverse] at last
  have kept := List.head?_dropWhile_not isBlank (text.dropWhile isBlank).reverse
  rw [last] at kept
  simpa using kept

theorem not_isBlank_of_mem_head?_trim (text : List Char) :
    ∀ c ∈ (trim text).head?, isBlank c = false := by
  intro c first
  obtain ⟨back, parts⟩ : trim text <+: text.dropWhile isBlank := List.rdropWhile_prefix isBlank _
  have kept := List.head?_dropWhile_not isBlank text
  rw [← parts, List.head?_append_of_ne_nil _ (by rintro empty; simp [empty] at first), first] at kept
  simpa using kept

/-- A text keeps its place at the beginning when more is written behind it. -/
theorem trim_isPrefix_trim_append (text tail : List Char) : trim text <+: trim (text ++ tail) := by
  have shorter (rest : List Char) : (rest.reverse.dropWhile isBlank).reverse <+: rest :=
    List.rdropWhile_prefix isBlank rest
  unfold trim
  rw [List.dropWhile_append]
  split
  next empty =>
    rw [List.isEmpty_iff.mp empty]
    exact List.nil_prefix
  next =>
    rw [List.reverse_append, List.dropWhile_append]
    split
    next => exact List.prefix_rfl
    next =>
      rw [List.reverse_append, List.reverse_reverse]
      exact (shorter _).trans (List.prefix_append _ _)

end LogSieve.Text
