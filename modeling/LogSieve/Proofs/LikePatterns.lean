import Mathlib.Data.List.Infix
import LogSieve.Proofs.WhereClause

/-! What the patterns of a statement match. A pattern is read item by item, and each item accepts a part
of the text; where a wildcard leaves a choice, some choice has to work out. The pattern of an escaped
literal has wildcards at its ends only. -/

namespace LogSieve.Sql

/-- What a pattern asks for at one place. -/
inductive PatternItem where
  | anyText
  | anyChar
  | exactly (c : Char)
  deriving DecidableEq

namespace PatternItem

def ofChar (c : Char) : PatternItem :=
  if c = '%' then anyText else if c = '_' then anyChar else exactly c

/-- The items of a pattern. An escape character, if there is one, quotes the character behind it, and
must not come last. -/
def read? (escape : Option Char) (quoted : Bool) : List Char → Option (List PatternItem)
  | [] => if quoted then none else some []
  | c :: pattern =>
    if quoted then (read? escape false pattern).map (exactly c :: ·)
    else if escape = some c then read? escape true pattern
    else (read? escape false pattern).map (ofChar c :: ·)

def accepts : List PatternItem → List Char → Bool
  | [], text => text.isEmpty
  | anyText :: items, text => text.tails.any (accepts items)
  | anyChar :: items, text => !text.isEmpty && accepts items text.tail
  | exactly c :: items, text => text.head? == some c && accepts items text.tail

end PatternItem

/-- Whether a text is `LIKE` a pattern, with the escape character that the comparison declares. -/
def isLike (escape : Option Char) (pattern text : String) : Bool :=
  (PatternItem.read? escape false pattern.toList).any (PatternItem.accepts · text.toList)

namespace PatternItem
variable {items : List PatternItem} {text : List Char}

theorem accepts_nil : accepts [] text = true ↔ text = [] := List.isEmpty_iff

theorem accepts_anyText : accepts (anyText :: items) text = true ↔
    ∃ skipped rest, text = skipped ++ rest ∧ accepts items rest = true := by
  rw [accepts, List.any_eq_true]
  constructor
  · rintro ⟨rest, tail, accepted⟩
    obtain ⟨skipped, parts⟩ := (List.mem_tails _ _).mp tail
    exact ⟨skipped, rest, parts.symm, accepted⟩
  · rintro ⟨skipped, rest, rfl, accepted⟩
    exact ⟨rest, (List.mem_tails _ _).mpr (List.suffix_append skipped rest), accepted⟩

theorem accepts_anyChar : accepts (anyChar :: items) text = true ↔
    ∃ c rest, text = c :: rest ∧ accepts items rest = true := by
  cases text with
  | nil => simp [accepts]
  | cons c rest => simp [accepts]

theorem accepts_exactly {c : Char} : accepts (exactly c :: items) text = true ↔
    ∃ rest, text = c :: rest ∧ accepts items rest = true := by
  cases text with
  | nil => simp [accepts]
  | cons d rest => simp [accepts]

theorem accepts_literal (literal : List Char) : accepts (literal.map exactly ++ items) text = true ↔
    ∃ rest, text = literal ++ rest ∧ accepts items rest = true := by
  induction literal generalizing text with
  | nil => simp
  | cons c literal ih =>
    rw [List.map_cons, List.cons_append, accepts_exactly]
    constructor
    · rintro ⟨rest, rfl, accepted⟩
      obtain ⟨after, rfl, last⟩ := ih.mp accepted
      exact ⟨after, rfl, last⟩
    · rintro ⟨rest, rfl, accepted⟩
      exact ⟨literal ++ rest, rfl, ih.mpr ⟨rest, rfl, accepted⟩⟩

theorem accepts_anything (text : List Char) : accepts [anyText] text = true :=
  accepts_anyText.mpr ⟨text, [], (List.append_nil text).symm, accepts_nil.mpr rfl⟩

theorem accepts_contains (literal : List Char) :
    accepts (anyText :: (literal.map exactly ++ [anyText])) text = true ↔ literal <:+: text := by
  rw [accepts_anyText]
  constructor
  · rintro ⟨skipped, rest, rfl, accepted⟩
    obtain ⟨after, rfl, -⟩ := (accepts_literal literal).mp accepted
    exact ⟨skipped, after, List.append_assoc skipped literal after⟩
  · rintro ⟨skipped, after, rfl⟩
    refine ⟨skipped, literal ++ after, List.append_assoc skipped literal after, ?_⟩
    exact (accepts_literal literal).mpr ⟨after, rfl, accepts_anything after⟩

theorem accepts_ofChar {c : Char} (accepted : accepts items text = true) :
    accepts (ofChar c :: items) (c :: text) = true := by
  unfold ofChar
  split
  · exact accepts_anyText.mpr ⟨[c], text, rfl, accepted⟩
  · split
    · exact accepts_anyChar.mpr ⟨c, text, rfl, accepted⟩
    · exact accepts_exactly.mpr ⟨text, rfl, accepted⟩

theorem accepts_itself (literal : List Char) (accepted : accepts items text = true) :
    accepts (literal.map ofChar ++ items) (literal ++ text) = true := by
  induction literal with
  | nil => exact accepted
  | cons c literal ih => exact accepts_ofChar ih

theorem accepts_of_contains {literal : List Char} (inside : literal <:+: text) :
    accepts (anyText :: (literal.map ofChar ++ [anyText])) text = true := by
  obtain ⟨skipped, after, rfl⟩ := inside
  rw [accepts_anyText, List.append_assoc]
  exact ⟨skipped, literal ++ after, rfl, accepts_itself literal (accepts_anything after)⟩

theorem read?_none (pattern : List Char) : read? none false pattern = some (pattern.map ofChar) := by
  induction pattern with
  | nil => rfl
  | cons c pattern ih => simp [read?, ih]

end PatternItem

def escapedChar (c : Char) : List Char :=
  if c = '\\' ∨ c = '%' ∨ c = '_' then ['\\', c] else [c]

/-- No pass changes what an earlier one has put in, so that the three are one. -/
theorem toList_escapeLike (literal : String) :
    (escapeLike literal).toList = literal.toList.flatMap escapedChar := by
  have each (c : Char) : backslashed '_' (backslashed '%' (backslashed '\\' [c])) = escapedChar c := by
    by_cases slash : c = '\\'
    · subst slash
      rfl
    by_cases percent : c = '%'
    · subst percent
      rfl
    by_cases underscore : c = '_'
    · subst underscore
      rfl
    simp [backslashed, escapedChar, slash, percent, underscore]
  simp only [escapeLike, String.toList_ofList, backslashed, List.flatMap_assoc] at each ⊢
  congr 1
  funext c
  simpa using each c

namespace PatternItem

theorem read?_escapedChar (c : Char) (rest : List Char) :
    read? (some '\\') false (escapedChar c ++ rest) =
      (read? (some '\\') false rest).map (exactly c :: ·) := by
  unfold escapedChar
  split
  next special => rfl
  next plain =>
    obtain ⟨slash, percent, underscore⟩ := by simpa only [not_or] using plain
    simp [read?, ofChar, slash, percent, underscore, eq_comm]

theorem read?_escaped (literal rest : List Char) :
    read? (some '\\') false (literal.flatMap escapedChar ++ rest) =
      (read? (some '\\') false rest).map (literal.map exactly ++ ·) := by
  induction literal with
  | nil => simp
  | cons c literal ih =>
    rw [List.flatMap_cons, List.append_assoc, read?_escapedChar, ih, Option.map_map]
    rfl

end PatternItem

theorem isLike_escaped_iff (literal text : String) :
    isLike (some '\\') (containsPattern true literal) text = true ↔
      literal.toList <:+: text.toList := by
  have pattern : (containsPattern true literal).toList =
      '%' :: (literal.toList.flatMap escapedChar ++ ['%']) := by
    rw [containsPattern, if_pos rfl, String.toList_append, String.toList_append, toList_escapeLike]
    rfl
  have items : PatternItem.read? (some '\\') false (containsPattern true literal).toList =
      some (.anyText :: (literal.toList.map .exactly ++ [.anyText])) := by
    rw [pattern]
    change (PatternItem.read? _ _ _).map _ = _
    rw [PatternItem.read?_escaped]
    rfl
  rw [isLike, items]
  exact PatternItem.accepts_contains literal.toList

theorem isLike_unescaped {literal text : String} (inside : literal.toList <:+: text.toList) :
    isLike none (containsPattern false literal) text = true := by
  have pattern : (containsPattern false literal).toList = '%' :: (literal.toList ++ ['%']) := by
    rw [containsPattern, String.toList_append, String.toList_append]
    rfl
  rw [isLike, PatternItem.read?_none, pattern, List.map_cons, List.map_append]
  exact PatternItem.accepts_of_contains inside

/-- An escaped literal is found exactly where it stands. Unescaped it is found there as well, and its
wildcards may only find more. -/
theorem isLike_containsPattern (literal text : String) :
    (isLike (some '\\') (containsPattern true literal) text = true ↔
      literal.toList <:+: text.toList) ∧
    (literal.toList <:+: text.toList → isLike none (containsPattern false literal) text = true) ∧
    (isLike (some '\\') (containsPattern true literal) text = true →
      isLike none (containsPattern false literal) text = true) := by
  refine ⟨isLike_escaped_iff literal text, isLike_unescaped, ?_⟩
  intro found
  exact isLike_unescaped ((isLike_escaped_iff literal text).mp found)

theorem isLike_containsPattern_wildcards :
    isLike (some '\\') (containsPattern true "%_\\") "5%_\\5" = true ∧
    isLike none (containsPattern false "%_\\") "5%_\\5" = true := by
  have inside : "%_\\".toList <:+: "5%_\\5".toList := by decide
  obtain ⟨found, -, still⟩ := isLike_containsPattern "%_\\" "5%_\\5"
  exact ⟨found.mpr inside, still (found.mpr inside)⟩

example : isLike (some '\\') (containsPattern true "a_c") "abc" = false ∧
    isLike none (containsPattern false "a_c") "abc" = true := by decide

/-- Escaping never lets a record through that would not have passed anyway. -/
theorem Asked.unescaped {truth : String → Comparison → Value → Prop} {record : String → Option String}
    {filter : Filter} {scope : Option String} (asked : Asked truth true filter scope)
    (likes : ∀ column escape pattern, truth column (.like escape) (.text pattern) ↔
      ∃ text ∈ record column, isLike escape pattern text = true) : Asked truth false filter scope := by
  have found (column literal : String)
      (shown : truth column (likeComparison true) (.text (containsPattern true literal))) :
      truth column (likeComparison false) (.text (containsPattern false literal)) := by
    obtain ⟨text, held, accepted⟩ := (likes _ _ _).mp shown
    exact (likes _ _ _).mpr ⟨text, held, isLike_unescaped ((isLike_escaped_iff literal text).mp accepted)⟩
  refine ⟨asked.scope, asked.method, asked.status, ?_, ?_, asked.start, asked.stop⟩
  · intro predicate present
    obtain ⟨literal, among, shown⟩ := asked.crawler predicate present
    exact ⟨literal, among, found "crawler_name" literal shown⟩
  · intro predicate present
    obtain ⟨literal, among, shown⟩ := asked.path predicate present
    exact ⟨literal, among, found "path" literal shown⟩

end LogSieve.Sql
