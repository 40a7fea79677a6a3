import Mathlib
import LogSieve.Catalog
import LogSieve.Proofs.Runs
import LogSieve.Text.Capital

/-! Keywords in any case. Comparing letters without regard to case and folding them agree on ASCII
letters; the two characters that fold onto ASCII from outside matter only to keywords with an `s`
or a `k`. -/

namespace LogSieve.Text

theorem isAsciiLetter_eq_isAlpha (c : Char) : isAsciiLetter c = c.isAlpha := by
  simp [isAsciiLetter, Char.isAlpha, Char.isUpper, Char.isLower, Char.le_def]

@[simp] theorem isAsciiLetter_toLower (c : Char) : isAsciiLetter c.toLower = isAsciiLetter c := by
  simp [isAsciiLetter_eq_isAlpha]

theorem sameAscii_iff {left right : List Char} :
    sameAscii left right = true ↔ lowerAscii left = lowerAscii right := by
  simp [sameAscii]

theorem fold_eq_toLower {c : Char} (plain : isAsciiWord c = true) : fold c = c.toLower := by
  unfold fold
  split
  next long => subst long; exact absurd plain (by decide)
  next =>
    split
    next kelvin => subst kelvin; exact absurd plain (by decide)
    next => rfl

theorem isKeyword_lowerAscii {text : List Char} (plain : ∀ c ∈ text, isAsciiWord c = true)
    (keyword : List Char) : isKeyword (lowerAscii keyword) text = sameAscii keyword text := by
  have folded : text.map fold = lowerAscii text :=
    List.map_congr_left fun c member => fold_eq_toLower (plain c member)
  rw [isKeyword, folded, sameAscii, Bool.beq_comm]

theorem capital_eq_toUpper {c : Char} (plain : isAsciiWord c = true) : capital c = [c.toUpper] := by
  have small : c.toNat < 0x80 := by
    simp only [isAsciiWord, isAsciiLetter, isAsciiDigit, Bool.or_eq_true, Bool.and_eq_true,
      decide_eq_true_eq, beq_iff_eq, Char.le_def, UInt32.le_iff_toNat_le] at plain
    rcases plain with ((⟨-, last⟩ | ⟨-, last⟩) | ⟨-, last⟩) | rfl
    · exact Nat.lt_of_le_of_lt last (by decide)
    · exact Nat.lt_of_le_of_lt last (by decide)
    · exact Nat.lt_of_le_of_lt last (by decide)
    · decide
  rw [capital, if_pos small]

theorem upperChars_eq_map {text : List Char} (plain : ∀ c ∈ text, isAsciiWord c = true) :
    upperChars text = text.map Char.toUpper := by
  induction text with
  | nil => rfl
  | cons c rest ih =>
    have first := capital_eq_toUpper (plain c List.mem_cons_self)
    have later := ih fun d member => plain d (List.mem_cons_of_mem c member)
    rw [upperChars, List.flatMap_cons, first, ← upperChars, later]
    rfl

theorem letters_of_sameAscii {keyword text : List Char} (same : sameAscii keyword text = true)
    (letters : ∀ c ∈ keyword, isAsciiLetter c = true) : ∀ c ∈ text, isAsciiLetter c = true := by
  intro c member
  have lower : c.toLower ∈ lowerAscii keyword := by
    rw [sameAscii_iff.mp same]
    exact List.mem_map_of_mem member
  obtain ⟨k, keyMember, equal⟩ := List.mem_map.mp lower
  rw [← isAsciiLetter_toLower, ← equal, isAsciiLetter_toLower]
  exact letters k keyMember

/-- A keyword as it is compared: small letters only. -/
structure SmallLetters (keyword : List Char) : Prop where
  letters : ∀ c ∈ keyword, isAsciiLetter c = true
  small : lowerAscii keyword = keyword

theorem map_fold_of_sameAscii {keyword text : List Char} (regular : SmallLetters keyword)
    (same : sameAscii keyword text = true) : text.map fold = keyword := by
  have letters := letters_of_sameAscii same regular.letters
  have plain (c : Char) (member : c ∈ text) : isAsciiWord c = true := by
    simp [isAsciiWord, letters c member]
  calc text.map fold = lowerAscii text :=
        List.map_congr_left fun c member => fold_eq_toLower (plain c member)
    _ = lowerAscii keyword := (sameAscii_iff.mp same).symm
    _ = keyword := regular.small

/-- Without `s` and `k` in a keyword, no character outside ASCII folds onto one of its letters. -/
theorem isKeyword_iff_sameAscii {keyword text : List Char} (regular : SmallLetters keyword)
    (plain : 's' ∉ keyword ∧ 'k' ∉ keyword) :
    isKeyword keyword text = true ↔ sameAscii keyword text = true := by
  refine ⟨fun found => ?_, fun same => by simp [isKeyword, map_fold_of_sameAscii regular same]⟩
  have folded : text.map fold = keyword := by simpa [isKeyword] using found
  rw [sameAscii_iff, regular.small, ← folded]
  refine List.map_congr_left fun c member => ?_
  have inside : fold c ∈ keyword := folded ▸ List.mem_map_of_mem member
  unfold fold at inside ⊢
  split at inside
  next => exact absurd inside plain.1
  next long =>
    split at inside
    next => exact absurd inside plain.2
    next kelvin => rw [if_neg long, if_neg kelvin]

theorem isWordChar_of_isAsciiLetter_fold {c : Char} (letter : isAsciiLetter (fold c) = true) :
    isWordChar c = true := by
  unfold fold at letter
  split at letter
  next long => subst long; decide +kernel
  next =>
    split at letter
    next kelvin => subst kelvin; decide +kernel
    next => exact isWordChar_of_isAsciiLetter (by rwa [isAsciiLetter_toLower] at letter)

theorem isWordChar_of_isKeyword {keyword text : List Char}
    (letters : ∀ k ∈ keyword, isAsciiLetter k = true) (same : isKeyword keyword text = true) :
    ∀ c ∈ text, isWordChar c = true := by
  intro c member
  have folded : text.map fold = keyword := beq_iff_eq.mp same
  exact isWordChar_of_isAsciiLetter_fold (letters _ (folded ▸ List.mem_map_of_mem member))

/-- Digits fold onto themselves, so that nothing with a digit in it is a keyword. -/
theorem isKeyword_eq_false_of_isAsciiDigit {keyword text : List Char} {c : Char}
    (letters : ∀ k ∈ keyword, isAsciiLetter k = true) (member : c ∈ text)
    (digit : isAsciiDigit c = true) : isKeyword keyword text = false := by
  by_contra found
  have folded : text.map fold = keyword := by simpa [isKeyword] using found
  have inside : fold c ∈ keyword := folded ▸ List.mem_map_of_mem member
  have same : fold c = c.toLower := fold_eq_toLower (by simp [isAsciiWord, digit])
  have letter := letters _ inside
  rw [same, isAsciiLetter_toLower] at letter
  have noDigit := not_isDigit_of_isAsciiLetter letter
  simp [isDigit, digit] at noDigit

theorem afterKeyword?_append {keyword text : List Char} (folded : text.map fold = keyword)
    (rest : List Char) : afterKeyword? keyword (text ++ rest) = some rest := by
  induction text generalizing keyword with
  | nil => subst folded; cases rest <;> rfl
  | cons c text ih =>
    subst folded
    simp [afterKeyword?, ih rfl]

theorem exists_of_afterKeyword? {keyword text rest : List Char}
    (found : afterKeyword? keyword text = some rest) :
    ∃ spelling, isKeyword keyword spelling = true ∧ text = spelling ++ rest := by
  induction keyword generalizing text with
  | nil =>
    obtain rfl := Option.some.inj found
    exact ⟨[], rfl, rfl⟩
  | cons k keyword ih =>
    cases text with
    | nil => cases found
    | cons c text =>
      rw [afterKeyword?] at found
      split at found
      next same =>
        obtain ⟨spelling, folded, rfl⟩ := ih found
        refine ⟨c :: spelling, ?_, rfl⟩
        rw [isKeyword, beq_iff_eq] at folded ⊢
        rw [List.map_cons, same, folded]
      next => cases found

theorem afterKeyword?_eq_none {keyword text : List Char} (differs : ¬ keyword <+: text.map fold) :
    afterKeyword? keyword text = none := by
  induction keyword generalizing text with
  | nil => exact absurd List.nil_prefix differs
  | cons k keyword ih =>
    cases text with
    | nil => rfl
    | cons c text =>
      by_cases same : fold c = k
      · simp only [List.map_cons, same, List.prefix_cons_inj] at differs
        simp [afterKeyword?, same, ih differs]
      · simp [afterKeyword?, same]

theorem sameAscii_capitals_iff {capitals text : List Char}
    (high : capitals.map Char.toUpper = capitals) :
    sameAscii capitals text = true ↔ text.map Char.toUpper = capitals := by
  rw [sameAscii_iff]
  constructor
  · intro same
    have raised := congrArg (List.map Char.toUpper) same
    simpa [lowerAscii, Function.comp_def, high] using raised.symm
  · rintro rfl
    simp [lowerAscii, Function.comp_def]

/-- To look a word up among words in capitals is to look up its own capitals. -/
theorem find?_sameAscii {capitals : List String}
    (high : ∀ capital ∈ capitals, capital.toList.map Char.toUpper = capital.toList)
    (word : List Char) : capitals.find? (fun capital => sameAscii capital.toList word) =
      if String.ofList (word.map Char.toUpper) ∈ capitals
      then some (String.ofList (word.map Char.toUpper)) else none := by
  have agree : ∀ capital ∈ capitals, sameAscii capital.toList word = true ↔
      String.ofList (word.map Char.toUpper) = capital := by
    intro capital member
    rw [sameAscii_capitals_iff (high capital member), ← String.toList_inj, String.toList_ofList]
  cases found : capitals.find? (fun capital => sameAscii capital.toList word) with
  | some capital =>
    have member := List.mem_of_find?_eq_some found
    have same := List.find?_some found
    rw [(agree capital member).mp same, if_pos member]
  | none =>
    refine (if_neg fun member => ?_).symm
    exact List.find?_eq_none.mp found _ member ((agree _ member).mpr rfl)

end LogSieve.Text

namespace LogSieve
open Text

theorem knownMethods_capitals : ∀ method ∈ knownMethods,
    method.toList.map Char.toUpper = method.toList := by decide

theorem knownMethod?_eq (word : List Char) : knownMethod? word =
    if String.ofList (word.map Char.toUpper) ∈ knownMethods
    then some (String.ofList (word.map Char.toUpper)) else none :=
  find?_sameAscii knownMethods_capitals word

end LogSieve
