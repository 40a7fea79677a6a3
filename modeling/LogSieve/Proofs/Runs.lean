import Mathlib.Data.List.Basic
import LogSieve.Text.Word

/-! Runs of a class of characters. A character outside the class parts the runs before it from those
behind it, and a text within the class is one run: these two facts settle `runs` for every text. -/

namespace LogSieve.Text
variable {inClass : Char → Bool}

@[simp] theorem runs_nil : runs inClass [] = [] := rfl

theorem runs_append_cons (before after : List Char) {c : Char} (outside : inClass c = false) :
    runs inClass (before ++ c :: after) = runs inClass before ++ runs inClass after := by
  rw [runs, List.splitOnP_append_cons before after (by simp [outside]), List.filter_append]
  rfl

theorem runs_eq_singleton {text : List Char} (nonempty : text ≠ [])
    (inside : ∀ c ∈ text, inClass c = true) : runs inClass text = [text] := by
  rw [runs, List.splitOnP_eq_singleton (by simpa using inside)]
  simp [nonempty]

theorem runs_congr {other : Char → Bool} {text : List Char}
    (agree : ∀ c ∈ text, inClass c = other c) : runs inClass text = runs other text := by
  have parts : text.splitOnP (fun c => !inClass c) = text.splitOnP fun c => !other c := by
    induction text with
    | nil => rfl
    | cons c rest ih =>
      rw [List.splitOnP_cons_eq_if_modifyHead, List.splitOnP_cons_eq_if_modifyHead,
        agree c List.mem_cons_self, ih fun d member => agree d (List.mem_cons_of_mem c member)]
  rw [runs, parts, runs]

theorem runs_skip {gap : List Char} (outside : ∀ c ∈ gap, inClass c = false) (after : List Char) :
    runs inClass (gap ++ after) = runs inClass after := by
  induction gap with
  | nil => rfl
  | cons c rest ih =>
    have first := runs_append_cons [] (rest ++ after) (outside c List.mem_cons_self)
    rw [List.cons_append]
    exact first.trans (ih fun d member => outside d (List.mem_cons_of_mem c member))

/-- The two sides of a gap have no run in common. -/
theorem runs_append_gap (before after : List Char) {gap : List Char} (nonempty : gap ≠ [])
    (outside : ∀ c ∈ gap, inClass c = false) :
    runs inClass (before ++ (gap ++ after)) = runs inClass before ++ runs inClass after := by
  obtain ⟨c, rest, rfl⟩ := List.exists_cons_of_ne_nil nonempty
  rw [List.cons_append, runs_append_cons _ _ (outside c List.mem_cons_self),
    runs_skip fun d member => outside d (List.mem_cons_of_mem c member)]

theorem ne_nil_of_mem_runs {text run : List Char} (member : run ∈ runs inClass text) : run ≠ [] := by
  simpa using (List.mem_filter.mp member).2

theorem inClass_of_mem_runs {text run : List Char} (member : run ∈ runs inClass text) :
    ∀ c ∈ run, inClass c = true := by
  by_cases whole : ∀ c ∈ text, inClass c = true
  · by_cases empty : text = []
    · subst empty
      cases member
    · rw [runs_eq_singleton empty whole, List.mem_singleton] at member
      exact member ▸ whole
  · simp only [not_forall, Bool.not_eq_true] at whole
    obtain ⟨d, among, outside⟩ := whole
    obtain ⟨before, after, rfl⟩ := List.append_of_mem among
    rw [runs_append_cons before after outside] at member
    rcases List.mem_append.mp member with left | right
    · exact inClass_of_mem_runs left
    · exact inClass_of_mem_runs right
termination_by text.length
decreasing_by all_goals simp_all <;> omega

theorem runs_ne_nil {text : List Char} {c : Char} (member : c ∈ text) (inside : inClass c = true) :
    runs inClass text ≠ [] := by
  by_cases whole : ∀ d ∈ text, inClass d = true
  · rw [runs_eq_singleton (List.ne_nil_of_mem member) whole]
    exact List.cons_ne_nil text []
  · simp only [not_forall, Bool.not_eq_true] at whole
    obtain ⟨d, among, outside⟩ := whole
    obtain ⟨before, after, rfl⟩ := List.append_of_mem among
    rw [runs_append_cons before after outside]
    intro empty
    obtain ⟨noneBefore, noneAfter⟩ := List.append_eq_nil_iff.mp empty
    rcases List.mem_append.mp member with left | right
    · exact runs_ne_nil left inside noneBefore
    · rcases List.mem_cons.mp right with rfl | right
      · rw [inside] at outside
        cases outside
      · exact runs_ne_nil right inside noneAfter
termination_by text.length
decreasing_by all_goals simp_all <;> omega

/-- Runs of a class can be sought within the runs of any wider class. -/
theorem runs_flatMap_runs {wide : Char → Bool} (within : ∀ c, inClass c = true → wide c = true)
    (text : List Char) : (runs wide text).flatMap (runs inClass) = runs inClass text := by
  by_cases whole : ∀ c ∈ text, wide c = true
  · by_cases empty : text = []
    · simp [empty]
    · simp [runs_eq_singleton empty whole]
  · simp only [not_forall, Bool.not_eq_true] at whole
    obtain ⟨c, member, outside⟩ := whole
    obtain ⟨before, after, rfl⟩ := List.append_of_mem member
    have narrow : inClass c = false := by
      by_contra inside
      simp [within c (by simpa using inside)] at outside
    rw [runs_append_cons _ _ outside, runs_append_cons _ _ narrow, List.flatMap_append,
      runs_flatMap_runs within before, runs_flatMap_runs within after]
termination_by text.length
decreasing_by all_goals simp_all <;> omega

/-- Classes whose spans lie apart have no character in common. -/
theorem not_covers_of_apart {spans others : List (Nat × Nat)} {c : Char}
    (apart : ∀ span ∈ spans, ∀ other ∈ others, span.2 < other.1 ∨ other.2 < span.1)
    (inside : covers spans c = true) : covers others c = false := by
  simp only [covers, List.any_eq_true, Bool.and_eq_true, decide_eq_true_eq] at inside
  obtain ⟨span, member, first, last⟩ := inside
  simp only [covers, List.any_eq_false, Bool.and_eq_true, decide_eq_true_eq, not_and]
  intro other otherMember
  have := apart span member other otherMember
  omega

private theorem covers_digits {c : Char} :
    covers [(0x30, 0x39)] c = isAsciiDigit c := by
  simp [covers, isAsciiDigit, Char.le_def, UInt32.le_iff_toNat_le]

private theorem covers_letters {c : Char} :
    covers [(0x41, 0x5a), (0x61, 0x7a)] c = isAsciiLetter c := by
  simp [covers, isAsciiLetter, Char.le_def, UInt32.le_iff_toNat_le]

theorem not_isBlank_of_isDigit {c : Char} (digit : isDigit c = true) : isBlank c = false := by
  rw [isDigit, Bool.or_eq_true, ← covers_digits] at digit
  rcases digit with ascii | foreign
  · exact not_covers_of_apart (by decide) ascii
  · exact not_covers_of_apart (by decide +kernel) foreign

theorem not_isBlank_of_isAsciiLetter {c : Char} (letter : isAsciiLetter c = true) :
    isBlank c = false := by
  rw [← covers_letters] at letter
  exact not_covers_of_apart (by decide) letter

theorem not_isDigit_of_isAsciiLetter {c : Char} (letter : isAsciiLetter c = true) :
    isDigit c = false := by
  rw [← covers_letters] at letter
  rw [isDigit, ← covers_digits, Bool.or_eq_false_iff]
  exact ⟨not_covers_of_apart (by decide) letter, not_covers_of_apart (by decide +kernel) letter⟩

theorem not_isWordChar_of_isBlank {c : Char} (blank : isBlank c = true) : isWordChar c = false := by
  have ascii : isAsciiWord c = false := by
    by_contra word
    simp only [isAsciiWord, Bool.or_eq_true, beq_iff_eq, Bool.not_eq_false] at word
    rcases word with (letter | digit) | rfl
    · simp [not_isBlank_of_isAsciiLetter letter] at blank
    · simp [not_isBlank_of_isDigit, isDigit, digit] at blank
    · revert blank
      decide
  rw [isWordChar, ascii, Bool.false_or]
  exact not_covers_of_apart (by decide +kernel) blank

theorem isVisible_of_isWordChar {c : Char} (letter : isWordChar c = true) : isVisible c = true := by
  rw [isVisible_eq_true]
  by_contra blank
  rw [not_isWordChar_of_isBlank (by simpa using blank)] at letter
  cases letter

/-- In ASCII, the characters of ASCII words are all word characters there are. -/
theorem isWordChar_eq_isAsciiWord {c : Char} (ascii : c.toNat < 0x80) :
    isWordChar c = isAsciiWord c := by
  have small : covers [(0, 0x7f)] c = true := by
    simp [covers]
    omega
  rw [isWordChar, not_covers_of_apart (by decide +kernel) small, Bool.or_false]

theorem isWordChar_eq_false {c : Char} (ascii : c.toNat < 0x80) (other : isAsciiWord c = false) :
    isWordChar c = false := by
  rw [isWordChar_eq_isAsciiWord ascii, other]

theorem isWordChar_of_isAsciiLetter {c : Char} (letter : isAsciiLetter c = true) :
    isWordChar c = true := by
  simp [isWordChar, isAsciiWord, letter]

theorem toList_toString (n : Nat) : (toString n).toList = Nat.toDigits 10 n := by
  rw [Nat.toString_eq_ofList_toDigits, String.toList_ofList]

theorem isAsciiDigit_of_mem_toDigits {n : Nat} {c : Char} (member : c ∈ Nat.toDigits 10 n) :
    isAsciiDigit c = true := by
  have digit := Nat.isDigit_of_mem_toDigits (by decide) (by decide) member
  simpa [isAsciiDigit, Char.isDigit, Char.le_def] using digit

end LogSieve.Text
