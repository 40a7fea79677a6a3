import LogSieve.Proofs.SeparatorPattern

/-! Separators by their places. Whether a word separates is decided from left to right: the first and the
last word never do, nor does the word behind a separator. All other words stay, whole and in order. -/

namespace LogSieve.Filter
open Text Grammar

/-- Whether the word at a place separates, counted from zero. -/
def isCut (separates : Word → Bool) (words : List Word) : Nat → Bool
  | 0 => false
  | place + 1 =>
    words[place + 1]?.any separates && decide (place + 2 < words.length) &&
      !isCut separates words place

section
variable {separates : Word → Bool}

theorem isCut_zero {words : List Word} : isCut separates words 0 = false := rfl

theorem isCut_one (word next : Word) (rest : List Word) :
    isCut separates (word :: next :: rest) 1 = (separates next && !rest.isEmpty) := by
  cases rest <;> simp [isCut]

theorem isCut_succ_of_isCut {words : List Word} {place : Nat}
    (cut : isCut separates words place = true) : isCut separates words (place + 1) = false := by
  rw [isCut, cut, Bool.not_true, Bool.and_false]

end

/-- The words between the places where a list is cut, with places counted from `start`. -/
def cutFrom (cut : Nat → Bool) (start : Nat) (words : List Word) : List (List Word) :=
  ((words.zipIdx start).splitOnP fun link => cut link.2).map (·.map Prod.fst)

def cutAt (separates : Word → Bool) (words : List Word) : List (List Word) :=
  cutFrom (isCut separates words) 0 words

def kept (separates : Word → Bool) (words : List Word) : List Word :=
  (words.zipIdx.filter fun link => !isCut separates words link.2).map Prod.fst

section
variable {cut : Nat → Bool} {start : Nat} {word : Word} {rest : List Word}

theorem cutFrom_cons_of_pos (here : cut start = true) :
    cutFrom cut start (word :: rest) = [] :: cutFrom cut (start + 1) rest := by
  rw [cutFrom, List.zipIdx_cons, List.splitOnP_cons_eq_if_modifyHead, if_pos here]
  rfl

theorem cutFrom_cons_of_neg (here : cut start = false) :
    cutFrom cut start (word :: rest) = attach word (cutFrom cut (start + 1) rest) := by
  obtain ⟨part, parts, apart⟩ :=
    List.exists_cons_of_ne_nil (List.splitOnP_ne_nil (fun link => cut link.2) (rest.zipIdx (start + 1)))
  rw [cutFrom, List.zipIdx_cons, List.splitOnP_cons_eq_if_modifyHead, if_neg (by simp [here]), cutFrom,
    apart]
  rfl

end

theorem cutFrom_congr {cut other : Nat → Bool} {start first : Nat} (words : List Word)
    (agree : ∀ place, cut (start + place) = other (first + place)) :
    cutFrom cut start words = cutFrom other first words := by
  induction words generalizing start first with
  | nil => rfl
  | cons word rest ih =>
    have beyond (place : Nat) : cut (start + 1 + place) = other (first + 1 + place) := by
      simpa only [Nat.add_assoc] using agree (1 + place)
    have later := ih beyond
    have here : cut start = other first := agree 0
    cases apart : cut start with
    | true => rw [cutFrom_cons_of_pos apart, cutFrom_cons_of_pos (here.symm.trans apart), later]
    | false => rw [cutFrom_cons_of_neg apart, cutFrom_cons_of_neg (here.symm.trans apart), later]

/-- From a place that does not separate, the rule begins anew. -/
theorem isCut_add {separates : Word → Bool} {words : List Word} {start : Nat}
    (whole : isCut separates words start = false) (place : Nat) :
    isCut separates words (start + place) = isCut separates (words.drop start) place := by
  induction place with
  | zero => exact whole
  | succ place ih =>
    have same : words[start + (place + 1)]? = (words.drop start)[place + 1]? := List.getElem?_drop.symm
    have later : start + place + 2 < words.length ↔ place + 2 < (words.drop start).length := by
      rw [List.length_drop]
      omega
    rw [← Nat.add_assoc] at same ⊢
    rw [isCut, isCut, ih, same, decide_eq_decide.mpr later]

theorem cutFrom_drop {separates : Word → Bool} {words : List Word} {start : Nat}
    (whole : isCut separates words start = false) :
    cutFrom (isCut separates words) start (words.drop start) = cutAt separates (words.drop start) :=
  cutFrom_congr _ fun place => by rw [isCut_add whole, Nat.zero_add]

theorem splitAt_eq_cutAt (separates : Word → Bool) (words : List Word) :
    splitAt separates words = cutAt separates words := by
  fun_induction splitAt separates words with
  | case1 => rfl
  | case2 word => rfl
  | case3 word next rest cut ih =>
    rw [← isCut_one word] at cut
    have third := isCut_succ_of_isCut cut
    have parted : cutAt separates (word :: next :: rest) =
        [word] :: cutFrom (isCut separates (word :: next :: rest)) 2 rest := by
      rw [cutAt, cutFrom_cons_of_neg isCut_zero, cutFrom_cons_of_pos cut]
      rfl
    rw [ih, parted]
    exact congrArg ([word] :: ·) (cutFrom_drop third).symm
  | case4 word next rest uncut ih =>
    rw [← isCut_one word, Bool.not_eq_true] at uncut
    have joined : cutAt separates (word :: next :: rest) =
        attach word (cutFrom (isCut separates (word :: next :: rest)) 1 (next :: rest)) := by
      rw [cutAt, cutFrom_cons_of_neg isCut_zero]
    rw [ih, joined]
    exact congrArg (attach word) (cutFrom_drop uncut).symm

theorem flatten_splitOnP {α : Type} (apart : α → Bool) (items : List α) :
    (items.splitOnP apart).flatten = items.filter fun item => !apart item := by
  induction items with
  | nil => rfl
  | cons item items ih =>
    rw [List.splitOnP_cons_eq_if_modifyHead]
    cases here : apart item with
    | true => simp [here, ih]
    | false =>
      obtain ⟨part, parts, cut⟩ := List.exists_cons_of_ne_nil (List.splitOnP_ne_nil apart items)
      rw [cut] at ih ⊢
      simp [here, ← ih]

theorem flatten_cutAt (separates : Word → Bool) (words : List Word) :
    (cutAt separates words).flatten = kept separates words := by
  rw [cutAt, cutFrom, ← List.map_flatten, flatten_splitOnP, kept]

theorem isAnd_eq : isAnd = sameAscii "and".toList := funext fun _ => Bool.eq_iff_iff.mpr isAnd_iff

theorem isOr_eq : isOr = sameAscii "or".toList := funext fun _ => Bool.eq_iff_iff.mpr isOr_iff

/-- Separators are told word by word. Cut at its separators, the trimmed text has the words of the clauses
between them, and each piece has those of the alternatives; the words that separate are those that are
`and`, or `or`, in any case, stand neither first nor last and follow no other separator; and every other
word stands in one alternative of one clause, whole, once and in order. -/
theorem separators_by_place (text : List Char) :
    (pieces "and".toList (trim text)).map words = clauses text ∧
    (pieces "and".toList (trim text)).map (fun segment => (pieces "or".toList (trim segment)).map words) =
      (clauses text).map alternatives ∧
    clauses text = cutAt (sameAscii "and".toList) (words text) ∧
    (clauses text).flatten = kept (sameAscii "and".toList) (words text) ∧
    ∀ clause, alternatives clause = cutAt (sameAscii "or".toList) clause ∧
      (alternatives clause).flatten = kept (sameAscii "or".toList) clause := by
  have segments : (pieces "and".toList (trim text)).map words = clauses text :=
    map_words_pieces_trim (fun _ => solid_of_isAnd) text
  have cut : clauses text = cutAt (sameAscii "and".toList) (words text) := by
    rw [clauses, isAnd_eq, splitAt_eq_cutAt]
  have parted (clause : List Word) : alternatives clause = cutAt (sameAscii "or".toList) clause := by
    rw [alternatives, isOr_eq, splitAt_eq_cutAt]
  refine ⟨segments, ?_, cut, ?_, fun clause => ⟨parted clause, ?_⟩⟩
  · rw [← segments, List.map_map]
    exact List.map_congr_left fun segment _ => map_words_pieces_trim (fun _ => solid_of_isOr) segment
  · rw [cut, flatten_cutAt]
  · rw [parted, flatten_cutAt]

/-- The second word and the fourth separate, the third one follows a separator. -/
example : clauses "and  And\tand AND and".toList =
    [["and".toList], ["and".toList], ["and".toList]] := by decide +kernel

end LogSieve.Filter
