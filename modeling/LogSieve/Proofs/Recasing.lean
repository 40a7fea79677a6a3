import LogSieve.Proofs.ContinuedText
import LogSieve.Proofs.Letters
import LogSieve.Proofs.Names

/-! The case of ASCII letters in a statement. Every class of characters that the read-only check looks at
holds both cases of a letter or neither, and no mark of a comment is a letter. So each step of the check
can be taken on the text in small letters, and what it finds there is what it would have found. -/

namespace LogSieve.Text

theorem toLower_eq_self {c : Char} (other : isAsciiLetter c = false) : c.toLower = c := by
  rw [isAsciiLetter_eq_isAlpha, Char.isAlpha, Bool.or_eq_false_iff] at other
  exact Char.toLower_eq_of_not_isUpper (by simp [other.1])

/-- What is told of a letter without regard to its case is told of both cases alike. -/
theorem apply_toLower {α : Type} {apply told : Char → α}
    (letters : ∀ c, isAsciiLetter c = true → apply c = told c) (caseless : ∀ c, told c.toLower = told c)
    (c : Char) : apply c.toLower = apply c := by
  by_cases letter : isAsciiLetter c = true
  · have lower : isAsciiLetter c.toLower = true := by rw [isAsciiLetter_toLower, letter]
    rw [letters c letter, letters _ lower, caseless]
  · rw [toLower_eq_self (Bool.eq_false_iff.mpr letter)]

theorem isBlank_toLower (c : Char) : isBlank c.toLower = isBlank c :=
  apply_toLower (fun _ letter => not_isBlank_of_isAsciiLetter letter) (fun _ => rfl) c

theorem isWordChar_toLower (c : Char) : isWordChar c.toLower = isWordChar c :=
  apply_toLower (fun _ letter => isWordChar_of_isAsciiLetter letter) (fun _ => rfl) c

theorem fold_toLower (c : Char) : fold c.toLower = fold c := by
  have letters (d : Char) (letter : isAsciiLetter d = true) : fold d = d.toLower :=
    fold_eq_toLower (by simp [isAsciiWord, letter])
  exact apply_toLower letters Char.toLower_toLower_eq_toLower c

theorem capital_toLower (c : Char) : capital c.toLower = capital c := by
  have letters (d : Char) (letter : isAsciiLetter d = true) : capital d = [d.toUpper] :=
    capital_eq_toUpper (by simp [isAsciiWord, letter])
  exact apply_toLower letters (fun d => by rw [Char.toUpper_toLower_eq_toUpper]) c

theorem toLower_eq_iff {c other : Char} (noLetter : isAsciiLetter other = false) :
    c.toLower = other ↔ c = other := by
  constructor
  · rintro rfl
    rw [isAsciiLetter_toLower] at noLetter
    exact (toLower_eq_self noLetter).symm
  · rintro rfl
    exact toLower_eq_self noLetter

theorem upperChars_lowerAscii (text : List Char) : upperChars (lowerAscii text) = upperChars text := by
  simp only [upperChars, lowerAscii, List.flatMap_map, capital_toLower]

theorem map_fold_lowerAscii (text : List Char) : (lowerAscii text).map fold = text.map fold := by
  simp only [lowerAscii, List.map_map, Function.comp_def, fold_toLower]

/-- Runs are cut at the same places when no character changes its class. -/
theorem runs_map {inClass : Char → Bool} {change : Char → Char}
    (kept : ∀ c, inClass (change c) = inClass c) (text : List Char) :
    runs inClass (text.map change) = (runs inClass text).map (List.map change) := by
  have parts : (text.map change).splitOnP (fun c => !inClass c) =
      (text.splitOnP fun c => !inClass c).map (List.map change) := by
    induction text with
    | nil => rfl
    | cons c rest ih =>
      rw [List.map_cons, List.splitOnP_cons_eq_if_modifyHead, List.splitOnP_cons_eq_if_modifyHead,
        kept, ih]
      split
      · rfl
      · cases rest.splitOnP fun c => !inClass c <;> rfl
  rw [runs, parts, List.filter_map, runs]
  congr 2
  funext run
  simp

theorem names_lowerAscii (text : List Char) :
    names (lowerAscii text) = (names text).map lowerAscii :=
  runs_map isWordChar_toLower text

theorem trim_lowerAscii (text : List Char) : trim (lowerAscii text) = lowerAscii (trim text) := by
  have blanks : isBlank ∘ Char.toLower = isBlank := funext isBlank_toLower
  simp only [trim, lowerAscii, List.dropWhile_map, blanks, ← List.map_reverse]

theorem allBlank_lowerAscii (text : List Char) : allBlank (lowerAscii text) = allBlank text := by
  simp only [allBlank, lowerAscii, List.all_map, Function.comp_def, isBlank_toLower]

end LogSieve.Text

namespace LogSieve.Sql
open Text

theorem isWord_lowerAscii (keyword : String) (word : List Char) :
    isWord keyword (lowerAscii word) = isWord keyword word := by
  rw [isWord, isKeyword, map_fold_lowerAscii, isWord, isKeyword]

theorem hasWord_lowerAscii (keyword : String) (text : List Char) :
    hasWord keyword (lowerAscii text) = hasWord keyword text := by
  simp only [hasWord, names_lowerAscii, List.any_map, Function.comp_def, isWord_lowerAscii]

theorem forbidden?_lowerAscii (text : List Char) : forbidden? (lowerAscii text) = forbidden? text := by
  simp only [forbidden?, names_lowerAscii, List.findSome?_map, Function.comp_def, isWord_lowerAscii]

theorem beginsWith_lowerAscii (keyword : String) (text : List Char) :
    beginsWith keyword (lowerAscii text) = beginsWith keyword text := by
  rw [beginsWith, upperChars_lowerAscii, beginsWith]

theorem afterSemicolon_lowerAscii (text : List Char) :
    afterSemicolon (lowerAscii text) = lowerAscii (afterSemicolon text) := by
  have semicolon : (· != ';') ∘ Char.toLower = (· != ';') := by
    funext c
    have same : c.toLower = ';' ↔ c = ';' := toLower_eq_iff rfl
    simp only [Function.comp_apply, bne, beq_eq_decide, same]
  simp only [afterSemicolon, lowerAscii, List.dropWhile_map, semicolon, List.map_drop]

theorem checkStatement_lowerAscii (statement : List Char) :
    checkStatement (lowerAscii statement) = checkStatement statement := by
  simp only [checkStatement, beginsWith_lowerAscii, hasWord_lowerAscii, forbidden?_lowerAscii,
    afterSemicolon_lowerAscii, allBlank_lowerAscii]

/-- Two marks stand side by side in a text exactly if they do so in small letters. -/
theorem not_pair_lowerAscii {c left right : Char} {rest : List Char}
    (single : ∀ after, c = left → rest = right :: after → False)
    (noLetters : isAsciiLetter left = false ∧ isAsciiLetter right = false) (after : List Char)
    (first : c.toLower = left) (next : lowerAscii rest = right :: after) : False := by
  obtain ⟨d, more, rfl, second, -⟩ := List.map_eq_cons_iff.mp next
  have same : d = right := (toLower_eq_iff noLetters.2).mp second
  exact single more ((toLower_eq_iff noLetters.1).mp first) (by rw [same])

theorem dropLineComments_lowerAscii (inside : Bool) (text : List Char) :
    dropLineComments inside (lowerAscii text) = lowerAscii (dropLineComments inside text) := by
  fun_induction dropLineComments inside text with
  | case1 => rfl
  | case2 _ rest ih => exact congrArg ('\n' :: ·) ih
  | case3 rest ih => exact ih
  | case4 inside rest outside ih =>
    obtain rfl := Bool.eq_false_iff.mpr outside
    exact ih
  | case5 c rest sameLine _ ih =>
    have visible : c.toLower ≠ '\n' := fun same => sameLine ((toLower_eq_iff rfl).mp same)
    exact (dropLineComments_inside (lowerAscii rest) visible).trans ih
  | case6 inside c rest _ single outside ih =>
    obtain rfl := Bool.eq_false_iff.mpr outside
    have apart := not_pair_lowerAscii single ⟨rfl, rfl⟩
    exact (dropLineComments_cons apart).trans (congrArg (c.toLower :: ·) ih)

theorem closes_lowerAscii (text : List Char) : closes (lowerAscii text) = closes text := by
  fun_induction closes text with
  | case1 => rfl
  | case2 => rfl
  | case3 c rest stillOpen ih =>
    have apart := not_pair_lowerAscii stillOpen ⟨rfl, rfl⟩
    exact (closes.eq_3 _ _ apart).trans ih

theorem dropBlockComments_lowerAscii (inside : Bool) (text : List Char) :
    dropBlockComments inside (lowerAscii text) = lowerAscii (dropBlockComments inside text) := by
  fun_induction dropBlockComments inside text with
  | case1 => rfl
  | case2 rest ih => exact ih
  | case3 inside rest outside ih =>
    obtain rfl := Bool.eq_false_iff.mpr outside
    exact congrArg ('*' :: ·) ih
  | case4 rest ih => exact ih
  | case5 inside rest outside closing ih =>
    obtain rfl := Bool.eq_false_iff.mpr outside
    have still : closes (lowerAscii rest) = true := (closes_lowerAscii rest).trans closing
    exact (if_pos still).trans ih
  | case6 inside rest outside endless =>
    obtain rfl := Bool.eq_false_iff.mpr outside
    have still : ¬ closes (lowerAscii rest) = true := by rwa [closes_lowerAscii]
    exact if_neg still
  | case7 c rest noEnd _ ih =>
    have apart := not_pair_lowerAscii noEnd ⟨rfl, rfl⟩
    exact (dropBlockComments_inside apart).trans ih
  | case8 inside c rest _ noStart outside ih =>
    obtain rfl := Bool.eq_false_iff.mpr outside
    have apart := not_pair_lowerAscii noStart ⟨rfl, rfl⟩
    exact (dropBlockComments_cons apart).trans (congrArg (c.toLower :: ·) ih)

theorem dropComments_lowerAscii (text : List Char) :
    dropComments (lowerAscii text) = lowerAscii (dropComments text) := by
  rw [dropComments, dropLineComments_lowerAscii, dropBlockComments_lowerAscii, dropComments]

/-- The check tells no text from another that differs from it in the case of ASCII letters alone. -/
theorem checkReadOnly_eq_of_sameAscii {text other : String}
    (same : sameAscii text.toList other.toList = true) : checkReadOnly other = checkReadOnly text := by
  have small (whole : String) :
      checkStatement (trim (dropComments (lowerAscii whole.toList))) = checkReadOnly whole := by
    rw [dropComments_lowerAscii, trim_lowerAscii, checkStatement_lowerAscii, checkReadOnly]
  rw [← small other, ← sameAscii_iff.mp same, small text]

end LogSieve.Sql
