import LogSieve.Proofs.Merging
import LogSieve.Proofs.Names
import LogSieve.Proofs.TermReading

/-! Two texts joined by `and` say what the two filters say, merged. No grammar is asked of either text:
the seam holds unless the first text ends in a separator that only waits for another word. -/

namespace LogSieve.Filter
open Text

variable {separates : Word → Bool}

theorem splitAt_ne_nil (separates : Word → Bool) (part : List Word) : splitAt separates part ≠ [] := by
  fun_induction splitAt separates part with
  | case1 => simp
  | case2 word => simp
  | case3 word next rest cut ih => simp
  | case4 word next rest uncut ih =>
    obtain ⟨first, more, parts⟩ := List.exists_cons_of_ne_nil ih
    simp [parts, attach]

theorem attach_append {parts : List (List Word)} (nonempty : parts ≠ []) (word : Word)
    (more : List (List Word)) : attach word (parts ++ more) = attach word parts ++ more := by
  obtain ⟨first, rest, rfl⟩ := List.exists_cons_of_ne_nil nonempty
  rfl

theorem head?_splitAt (separates : Word → Bool) (word : Word) (rest : List Word) :
    (splitAt separates (word :: rest)).head?.bind List.head? = some word := by
  cases rest with
  | nil => rfl
  | cons next rest =>
    rw [splitAt]
    split
    · rfl
    · cases splitAt separates (next :: rest) <;> rfl

theorem splitAt_cons_eq_singleton (word : Word) {rest : List Word}
    (plain : ∀ next ∈ rest, separates next = false) : splitAt separates (word :: rest) = [word :: rest] := by
  cases rest with
  | nil => rfl
  | cons next rest => simp [splitAt, plain next List.mem_cons_self, splitAt_eq_singleton plain, attach]

/-- Whether the text would be cut at its last word if only another word followed. -/
def hangs (separates : Word → Bool) : List Word → Bool
  | [] => false
  | [_] => false
  | _ :: next :: rest =>
    if separates next then rest.isEmpty || hangs separates rest else hangs separates (next :: rest)

theorem hangs_concat (front : List Word) (word : Word) : hangs separates (front ++ [word]) =
    (separates word && !front.isEmpty && !hangs separates front) := by
  fun_induction hangs separates front with
  | case1 => simp [hangs]
  | case2 first => simp [hangs]
  | case3 first next rest cut ih => simp [hangs, cut, ih, Bool.and_assoc]
  | case4 first next rest uncut ih => simpa [hangs, uncut] using ih

theorem exists_concat_of_hangs {part : List Word} (hanging : hangs separates part = true) :
    ∃ front word, part = front ++ [word] ∧ front ≠ [] ∧ separates word = true ∧
      hangs separates front = false := by
  rcases part.eq_nil_or_concat with rfl | ⟨front, word, rfl⟩
  · cases hanging
  · rw [List.concat_eq_append, hangs_concat] at hanging
    simp only [Bool.and_eq_true, Bool.not_eq_true', List.isEmpty_eq_false_iff] at hanging
    exact ⟨front, word, List.concat_eq_append, hanging.1.2, hanging.1.1, hanging.2⟩

theorem hangs_of_plain {part : List Word} (plain : ∀ word ∈ part, separates word = false) :
    hangs separates part = false := by
  by_contra hanging
  obtain ⟨front, word, rfl, -, separator, -⟩ := exists_concat_of_hangs (by simpa using hanging)
  simp [plain word] at separator

/-- A separator between words cuts there and changes no cut on its sides. -/
theorem splitAt_append {before after : List Word} {separator : Word} (nonempty : before ≠ [])
    (closed : hangs separates before = false) (cut : separates separator = true) (more : after ≠ []) :
    splitAt separates (before ++ separator :: after) =
      splitAt separates before ++ splitAt separates after := by
  fun_induction splitAt separates before with
  | case1 => exact absurd rfl nonempty
  | case2 word => simp [splitAt, cut, more]
  | case3 word next rest cuts ih =>
    simp only [Bool.and_eq_true, Bool.not_eq_true', List.isEmpty_eq_false_iff] at cuts
    have below := ih cuts.2 (by simpa [hangs, cuts] using closed)
    simp [splitAt, cuts, below]
  | case4 word next rest uncut ih =>
    have plain : separates next = false := by
      by_contra separator
      simp only [Bool.not_eq_false] at separator
      have last : rest = [] := by simpa [separator] using uncut
      simp [hangs, separator, last] at closed
    have below := ih (List.cons_ne_nil next rest) (by simpa [hangs, plain] using closed)
    simp only [List.cons_append] at below ⊢
    simp only [splitAt, plain, Bool.false_and, Bool.false_eq_true, if_false, below]
    exact attach_append (splitAt_ne_nil separates (next :: rest)) word _

theorem words_spaced {word : Word} (solid : Grammar.Solid word) (before after : List Char) :
    words (before ++ (' ' :: word ++ [' ']) ++ after) = words before ++ word :: words after := by
  have blank : ∀ c ∈ [' '], isBlank c = true := by
    intro c member
    rw [List.mem_singleton.mp member]
    decide
  have right := Grammar.words_append_blank word after (List.cons_ne_nil ' ' []) blank
  have left := Grammar.words_append_blank before (word ++ ([' '] ++ after))
    (List.cons_ne_nil ' ' []) blank
  rw [right, solid.words] at left
  simpa using left

theorem words_and (before after : List Char) :
    words (before ++ " AND ".toList ++ after) = words before ++ ['A', 'N', 'D'] :: words after := by
  have solid : Grammar.Solid ['A', 'N', 'D'] := ⟨by simp, by simpa using by decide⟩
  exact words_spaced solid before after

/-- Texts that can be followed by `and` and more: they hold a word, and end in no separator that would
be one only then. -/
structure Settled (text : List Char) : Prop where
  nonempty : words text ≠ []
  closed : hangs isAnd (words text) = false

theorem Whole.settled {text : List Char} (whole : Whole isAnd (words text)) : Settled text :=
  ⟨whole.1, hangs_of_plain whole.2⟩

theorem clauses_and {before after : List Char} (settled : Settled before)
    (more : words after ≠ []) :
    clauses (before ++ " AND ".toList ++ after) = clauses before ++ clauses after := by
  unfold clauses
  rw [words_and]
  exact splitAt_append settled.nonempty settled.closed (by decide) more

theorem ofText_settled_and {first second : String} (settled : Settled first.toList)
    (more : words second.toList ≠ []) :
    ofText (first ++ " AND " ++ second) = (ofText first).merge (ofText second) := by
  unfold ofText
  rw [String.toList_append, String.toList_append, clauses_and settled more, List.foldl_append]
  exact foldl_applyClause_eq_merge _ _

/-- A separator left open takes the clause behind the next one for its own, which then begins with `and`
instead of a field: whatever the clause says is lost. -/
theorem ofText_and_of_hangs {first : String} (hanging : hangs isAnd (words first.toList) = true) :
    ∃ read, ∀ second : String, Whole isAnd (words second.toList) →
      ofText (first ++ " AND " ++ second) = read := by
  obtain ⟨front, word, parts, more, separator, closed⟩ := exists_concat_of_hangs hanging
  refine ⟨(splitAt isAnd front).foldl applyClause {}, ?_⟩
  intro second whole
  have unknown : clauseField? (['A', 'N', 'D'] :: words second.toList) = none := by
    rw [clauseField?, alternatives, head?_splitAt]
    decide
  rw [ofText, String.toList_append, String.toList_append, clauses, words_and, parts,
    List.append_assoc, List.singleton_append,
    splitAt_append more closed separator (List.cons_ne_nil _ _),
    splitAt_cons_eq_singleton _ whole.2, List.foldl_append]
  simp [applyClause, unknown]

theorem exists_lastWord {text : List Char} (nonempty : text ≠ [])
    (visible : ∀ c ∈ text.getLast?, isBlank c = false) : ∃ before word, text = before ++ word ∧
      Grammar.Solid word ∧ before.getLast?.all isBlank = true := by
  obtain ⟨c, rest, flipped⟩ := List.exists_cons_of_ne_nil (List.reverse_ne_nil_iff.mpr nonempty)
  have last : isBlank c = false := visible c (by rw [← List.head?_reverse, flipped]; rfl)
  obtain ⟨word, tail, cut, solid, parted⟩ := Grammar.exists_word last rest
  refine ⟨tail.reverse, word.reverse, ?_, ?_, by rwa [List.getLast?_reverse]⟩
  · rw [← List.reverse_append, ← cut, ← flipped, List.reverse_reverse]
  · exact ⟨List.reverse_ne_nil_iff.mpr solid.nonempty, by simpa using solid.noBlank⟩

/-- The last word of a text follows a blank, if the text does not end in one and holds other words. -/
theorem exists_blank_of_words_eq {text : List Char}
    (visible : ∀ c ∈ text.getLast?, isBlank c = false) {front : List Word} {word : Word}
    (cut : words text = front ++ [word]) (more : front ≠ []) :
    ∃ c, isBlank c = true ∧ c :: word <:+ text := by
  have nonempty : text ≠ [] := by
    rintro rfl
    simp [words] at cut
  obtain ⟨before, last, rfl, solid, parted⟩ := exists_lastWord nonempty visible
  rcases before.eq_nil_or_concat with rfl | ⟨before, c, rfl⟩
  · rw [List.nil_append, solid.words] at cut
    have lengths := congrArg List.length cut
    have long := List.length_pos_iff.mpr more
    rw [List.length_singleton, List.length_append, List.length_singleton] at lengths
    omega
  · have blank : isBlank c = true := by simpa using parted
    have apart : words (before ++ c :: last) = words before ++ words last :=
      runs_append_cons before last (isVisible_eq_false.mpr blank)
    rw [List.concat_eq_append, List.append_assoc, List.singleton_append, apart, solid.words] at cut
    obtain rfl : last = word := List.singleton_inj.mp (List.append_inj_right' cut rfl)
    exact ⟨c, blank, before, by simp⟩

def EndsInAnd (text : List Char) : Prop :=
  ∃ c word, isBlank c = true ∧ sameAscii "and".toList word = true ∧ c :: word <:+ trim text

instance (text : List Char) : Decidable (EndsInAnd text) :=
  decidable_of_iff ((trim text).tails.any (fun ending =>
      ending.head?.any isBlank && sameAscii "and".toList ending.tail) = true) <| by
    rw [List.any_eq_true]
    constructor
    · rintro ⟨ending, member, holds⟩
      rw [Bool.and_eq_true] at holds
      cases ending with
      | nil => cases holds.1
      | cons c word => exact ⟨c, word, holds.1, holds.2, (List.mem_tails _ _).mp member⟩
    · rintro ⟨c, word, blank, same, ending⟩
      exact ⟨c :: word, (List.mem_tails _ _).mpr ending, Bool.and_eq_true_iff.mpr ⟨blank, same⟩⟩

theorem settled_of_not_endsInAnd {text : List Char} (present : allBlank text = false)
    (ended : ¬ EndsInAnd text) : Settled text := by
  constructor
  · simp only [allBlank, List.all_eq_false, Bool.not_eq_true] at present
    obtain ⟨c, member, solid⟩ := present
    exact runs_ne_nil member (by simp [solid])
  · by_contra hanging
    obtain ⟨front, word, parts, more, separator, -⟩ := exists_concat_of_hangs (by simpa using hanging)
    rw [← words_trim] at parts
    obtain ⟨c, blank, ending⟩ :=
      exists_blank_of_words_eq (not_isBlank_of_mem_getLast?_trim text) parts more
    exact ended ⟨c, word, blank, isAnd_iff.mp separator, ending⟩

/-- The conjunction of two texts is read as the two filters merged, which is how the second text refines
the first filter. -/
theorem ofText_and {first second : String} (present : allBlank first.toList = false)
    (more : allBlank second.toList = false) (ended : ¬ EndsInAnd first.toList) :
    ofText (first ++ " AND " ++ second) = (ofText first).merge (ofText second) ∧
      ofText (first ++ " AND " ++ second) = refine (ofText first) second := by
  simp only [allBlank, List.all_eq_false, Bool.not_eq_true] at more
  obtain ⟨c, member, solid⟩ := more
  have merged := ofText_settled_and (settled_of_not_endsInAnd present ended)
    (runs_ne_nil member (by simp [solid]))
  exact ⟨merged, merged⟩

/-- Unknown fields, doubled separators and a leading `and` on either side of the seam are no matter. -/
theorem ofText_and_malformed :
    (allBlank "and\tmethod = get OR put AND AND color = red and path = /and".toList = false ∧
      allBlank " and status = 404 AND date = : AND path contains".toList = false ∧
      ¬ EndsInAnd "and\tmethod = get OR put AND AND color = red and path = /and".toList) ∧
    ofText ("and\tmethod = get OR put AND AND color = red and path = /and" ++ " AND " ++
        " and status = 404 AND date = : AND path contains") =
      (ofText "and\tmethod = get OR put AND AND color = red and path = /and").merge
        (ofText " and status = 404 AND date = : AND path contains") := by
  have present : allBlank "and\tmethod = get OR put AND AND color = red and path = /and".toList = false := by
    decide +kernel
  have more : allBlank " and status = 404 AND date = : AND path contains".toList = false := by
    decide +kernel
  have ended : ¬ EndsInAnd "and\tmethod = get OR put AND AND color = red and path = /and".toList := by
    decide +kernel
  exact ⟨⟨present, more, ended⟩, (ofText_and present more ended).1⟩

end LogSieve.Filter
